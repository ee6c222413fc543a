/-
  Lib.Counted — vectors of words behind a counted header.
-/
import Tidex.Lib.Bytes

namespace Tidex.Lib

open List ByteArray

/-! ## Elements of one width -/

def evenSpans (start width : Nat) : Nat → List (Nat × Nat)
  | 0 => []
  | n + 1 => (start, start + width) :: evenSpans (start + width) width n

lemma tiles_evenSpans (start width n : Nat) :
    Tiles start (evenSpans start width n) (start + n * width) := by
  induction n generalizing start with
  | zero =>
    show start = start + 0 * width
    omega
  | succ n ih =>
    refine ⟨rfl, Nat.le_add_right _ _, ?_⟩
    have hstop : start + (n + 1) * width = (start + width) + n * width := by
      rw [Nat.succ_mul]
      omega
    rw [hstop]
    exact ih (start + width)

lemma sizes_evenSpans (start width n : Nat) :
    (evenSpans start width n).map (fun span => span.2 - span.1) = replicate n width := by
  induction n generalizing start with
  | zero => rfl
  | succ n ih =>
    rw [evenSpans, map_cons, ih, replicate_succ]
    congr 1
    show start + width - start = width
    omega

def cut (bytes : ByteArray) (start width n : Nat) : List ByteArray :=
  (evenSpans start width n).map (slice bytes)

lemma cut_joined {before : ByteArray} {parts : List ByteArray} {width : Nat}
    (hsizes : ∀ part ∈ parts, part.size = width) :
    cut (before ++ joined parts) before.size width parts.length = parts := by
  apply slices_joined before parts (tiles_evenSpans before.size width parts.length)
  rw [sizes_evenSpans, eq_comm, map_eq_replicate_iff]
  exact hsizes

lemma size_joined_of_width {parts : List ByteArray} {width : Nat}
    (hsizes : ∀ part ∈ parts, part.size = width) : (joined parts).size = parts.length * width := by
  have hmap : parts.map size = replicate parts.length width :=
    map_eq_replicate_iff.mpr hsizes
  rw [size_joined, hmap, sum_replicate_nat]

/-! ## The form -/

structure CountedForm where
  mark : ByteArray
  width : Nat
  size_mark : mark.size = 8

namespace CountedForm

variable (f : CountedForm)

def headerBytes : Nat := 16

def header (count : Nat) : ByteArray := f.mark ++ le64 count

def encode (elements : List ByteArray) : ByteArray := f.header elements.length ++ joined elements

def markOf (bytes : ByteArray) : ByteArray := slice bytes (0, 8)

def countOf (bytes : ByteArray) : Nat := ofLe (slice bytes (8, 16))

def elements (bytes : ByteArray) (count : Nat) : List ByteArray :=
  cut bytes headerBytes f.width count

variable {f} {parts : List ByteArray}

lemma size_header (count : Nat) : (f.header count).size = headerBytes := by
  unfold header
  rw [size_append, f.size_mark, size_le64]
  rfl

lemma size_encode (hsizes : ∀ part ∈ parts, part.size = f.width) :
    (f.encode parts).size = headerBytes + parts.length * f.width := by
  unfold encode
  rw [size_append, size_header, size_joined_of_width hsizes]

lemma mark_encode : markOf (f.encode parts) = f.mark := by
  unfold markOf slice encode header
  rw [ByteArray.append_assoc]
  exact ByteArray.extract_append_eq_left f.size_mark.symm

lemma count_encode (h : parts.length < 2 ^ 64) : countOf (f.encode parts) = parts.length := by
  have hslice : slice (f.encode parts) (8, 16) = le64 parts.length := by
    unfold slice encode header
    rw [ByteArray.append_assoc]
    have hmove := ByteArray.extract_append_size_add (a := f.mark)
      (b := le64 parts.length ++ joined parts) (i := 0) (j := 8)
    rw [f.size_mark] at hmove
    show ByteArray.extract _ 8 16 = _
    rw [hmove]
    exact ByteArray.extract_append_eq_left (size_le64 _).symm
  unfold countOf
  rw [hslice, ofLe_le64 h]

lemma elements_encode (hsizes : ∀ part ∈ parts, part.size = f.width) :
    f.elements (f.encode parts) parts.length = parts := by
  unfold elements encode
  rw [← size_header (f := f) parts.length]
  exact cut_joined hsizes

end CountedForm

end Tidex.Lib
