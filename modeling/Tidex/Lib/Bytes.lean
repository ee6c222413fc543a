/-
  Lib.Bytes — byte strings that are cut into consecutive pieces.
-/
import Mathlib.Algebra.Order.Ring.Nat
import Mathlib.Data.List.Basic

namespace Tidex.Lib

open List ByteArray

/-! ## Joining -/

def joined (parts : List ByteArray) : ByteArray :=
  parts.foldr (· ++ ·) ByteArray.empty

@[simp] lemma joined_nil : joined [] = empty := rfl

@[simp] lemma joined_cons (part : ByteArray) (parts : List ByteArray) :
    joined (part :: parts) = part ++ joined parts := rfl

/-! ## Spans -/

/-- A piece of a byte string, by its two ends. -/
def slice (bytes : ByteArray) (span : Nat × Nat) : ByteArray :=
  bytes.extract span.1 span.2

/-- Spans, one after another, from one position to another. -/
def Tiles (start : Nat) (spans : List (Nat × Nat)) (stop : Nat) : Prop :=
  match spans with
  | [] => start = stop
  | span :: spans => span.1 = start ∧ span.1 ≤ span.2 ∧ Tiles span.2 spans stop

variable {start stop : Nat} {spans : List (Nat × Nat)}

lemma Tiles.le (h : Tiles start spans stop) : start ≤ stop := by
  induction spans generalizing start with
  | nil => exact Nat.le_of_eq h
  | cons span spans ih =>
    obtain ⟨hfirst, hspan, hrest⟩ := h
    have := ih hrest
    omega

lemma Tiles.mem (h : Tiles start spans stop) {span : Nat × Nat} (hmem : span ∈ spans) :
    start ≤ span.1 ∧ span.1 ≤ span.2 ∧ span.2 ≤ stop := by
  induction spans generalizing start with
  | nil => cases hmem
  | cons first spans ih =>
    obtain ⟨hfirst, hspan, hrest⟩ := h
    rcases mem_cons.mp hmem with rfl | hmem
    · have := hrest.le
      omega
    · have := ih hrest hmem
      omega

lemma Tiles.snoc (h : Tiles start spans stop) {span : Nat × Nat} (hfirst : span.1 = stop)
    (hspan : span.1 ≤ span.2) : Tiles start (spans ++ [span]) span.2 := by
  induction spans generalizing start with
  | nil =>
    have hstart : start = stop := h
    exact ⟨hfirst.trans hstart.symm, hspan, rfl⟩
  | cons first spans ih =>
    obtain ⟨hhead, hle, hrest⟩ := h
    exact ⟨hhead, hle, ih hrest⟩

lemma Tiles.shift (h : Tiles start spans stop) (n : Nat) :
    Tiles (n + start) (spans.map fun span => (n + span.1, n + span.2)) (n + stop) := by
  induction spans generalizing start with
  | nil =>
    have hstart : start = stop := h
    show n + start = n + stop
    rw [hstart]
  | cons span spans ih =>
    obtain ⟨hfirst, hspan, hrest⟩ := h
    exact ⟨by dsimp only; omega, by dsimp only; omega, ih hrest⟩

lemma joined_slices (bytes : ByteArray) (h : Tiles start spans stop) :
    joined (spans.map (slice bytes)) = bytes.extract start stop := by
  induction spans generalizing start with
  | nil =>
    have hstart : start = stop := h
    rw [hstart, map_nil, joined_nil]
    ext1
    simp
  | cons span spans ih =>
    obtain ⟨hfirst, hspan, hrest⟩ := h
    have hle := hrest.le
    rw [map_cons, joined_cons, ih hrest, slice, hfirst]
    exact (extract_eq_extract_append_extract span.2 (by omega) hle).symm

lemma slices_joined (before : ByteArray) (parts : List ByteArray) {stop : Nat}
    (h : Tiles before.size spans stop)
    (hsizes : spans.map (fun span => span.2 - span.1) = parts.map ByteArray.size) :
    spans.map (slice (before ++ joined parts)) = parts := by
  induction spans generalizing before parts with
  | nil =>
    cases parts with
    | nil => rfl
    | cons part parts => cases hsizes
  | cons span spans ih =>
    cases parts with
    | nil => cases hsizes
    | cons part parts =>
      obtain ⟨hfirst, hspan, hrest⟩ := h
      rw [map_cons, map_cons] at hsizes
      obtain ⟨hsize, hsizes⟩ := cons.inj hsizes
      have hend : span.2 = before.size + part.size := by omega
      have hregroup : before ++ joined (part :: parts) = (before ++ part) ++ joined parts := by
        rw [joined_cons, ByteArray.append_assoc]
      have hrest' : Tiles (before ++ part).size spans stop := by
        rw [ByteArray.size_append, ← hend]
        exact hrest
      have hpart : slice ((before ++ part) ++ joined parts) span = part := by
        unfold slice
        rw [ByteArray.append_assoc, hfirst, hend]
        have hmove := ByteArray.extract_append_size_add (a := before) (b := part ++ joined parts)
          (i := 0) (j := part.size)
        rw [Nat.add_zero] at hmove
        rw [hmove]
        exact ByteArray.extract_append_eq_left rfl
      rw [map_cons, hregroup, hpart, ih (before ++ part) parts hrest' hsizes]

lemma size_joined (parts : List ByteArray) : (joined parts).size = (parts.map size).sum := by
  induction parts with
  | nil => rfl
  | cons part parts ih =>
    rw [joined_cons, size_append, ih, map_cons, sum_cons]

/-! ## Machine words -/

/-- The bytes of a machine word, the lowest first. -/
def le64 (n : Nat) : ByteArray :=
  ⟨((List.range 8).map fun i => (n / 256 ^ i).toUInt8).toArray⟩

/-- The value of bytes, the lowest first. -/
def ofLe (bytes : ByteArray) : Nat :=
  bytes.data.toList.foldr (fun byte n => byte.toNat + 256 * n) 0

lemma size_le64 (n : Nat) : (le64 n).size = 8 := rfl

lemma ofLe_le64 {n : Nat} (h : n < 2 ^ 64) : ofLe (le64 n) = n := by
  have hbyte : ∀ m : Nat, m.toUInt8.toNat = m % 256 := fun m => rfl
  unfold ofLe le64
  simp only [range, range.loop, map_cons, map_nil, foldr_cons, foldr_nil, hbyte]
  omega

end Tidex.Lib
