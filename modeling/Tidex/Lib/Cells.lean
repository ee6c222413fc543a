/-
  Lib.Cells — writing cells of a list, one after the other.
-/
import Mathlib.Data.List.Nodup

namespace Tidex.Lib

open List

variable {α : Type}

def writeAll (writes : List (Nat × α)) (cells : List α) : List α :=
  writes.foldl (fun cells write => cells.set write.1 write.2) cells

@[simp] lemma writeAll_nil (cells : List α) : writeAll [] cells = cells := rfl

@[simp] lemma writeAll_cons (write : Nat × α) (writes : List (Nat × α)) (cells : List α) :
    writeAll (write :: writes) cells = writeAll writes (cells.set write.1 write.2) := rfl

lemma writeAll_append (writes more : List (Nat × α)) (cells : List α) :
    writeAll (writes ++ more) cells = writeAll more (writeAll writes cells) :=
  foldl_append

@[simp] lemma length_writeAll (writes : List (Nat × α)) (cells : List α) :
    (writeAll writes cells).length = cells.length := by
  induction writes generalizing cells with
  | nil => rfl
  | cons write writes ih =>
    show (writeAll writes (cells.set write.1 write.2)).length = cells.length
    rw [ih, length_set]

lemma getElem?_writeAll_of_not_mem {writes : List (Nat × α)} {cells : List α} {i : Nat}
    (h : i ∉ writes.map Prod.fst) : (writeAll writes cells)[i]? = cells[i]? := by
  induction writes generalizing cells with
  | nil => rfl
  | cons write writes ih =>
    rw [map_cons, mem_cons, not_or] at h
    show (writeAll writes (cells.set write.1 write.2))[i]? = cells[i]?
    rw [ih h.2, getElem?_set_ne (Ne.symm h.1)]

/-- A cell that is written once holds what was written. -/
lemma getElem?_writeAll_of_mem {writes : List (Nat × α)} {cells : List α}
    (honce : (writes.map Prod.fst).Nodup) {write : Nat × α} (hmem : write ∈ writes)
    (hrange : write.1 < cells.length) : (writeAll writes cells)[write.1]? = some write.2 := by
  induction writes generalizing cells with
  | nil => cases hmem
  | cons first writes ih =>
    rw [map_cons, nodup_cons] at honce
    show (writeAll writes (cells.set first.1 first.2))[write.1]? = some write.2
    rcases mem_cons.mp hmem with heq | hrest
    · subst heq
      rw [getElem?_writeAll_of_not_mem honce.1, getElem?_set_self hrange]
    · apply ih honce.2 hrest
      rw [length_set]
      exact hrange

end Tidex.Lib
