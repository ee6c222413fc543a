/-
  Lib.Segment — segments of a list that is read in chunks.
-/
import Mathlib.Data.List.Basic

namespace Tidex.Lib

open List

variable {α β : Type}

/-- What lies from one position up to another. -/
def segment (l : List α) (start stop : Nat) : List α := (l.drop start).take (stop - start)

lemma getElem?_segment (l : List α) (start stop i : Nat) :
    (segment l start stop)[i]? = if start + i < stop then l[start + i]? else none := by
  unfold segment
  rw [getElem?_take]
  by_cases h : start + i < stop
  · rw [if_pos h, if_pos (by omega), getElem?_drop]
  · rw [if_neg h, if_neg (by omega)]

variable {l : List α} {start stop : Nat}

lemma segment_of_le (h : stop ≤ start) : segment l start stop = [] := by
  unfold segment
  rw [Nat.sub_eq_zero_of_le h, take_zero]

lemma length_segment (h : stop ≤ l.length) : (segment l start stop).length = stop - start := by
  unfold segment
  rw [length_take, length_drop]
  omega

lemma segment_all (l : List α) : segment l 0 l.length = l := by
  unfold segment
  rw [drop_zero, Nat.sub_zero, take_length]

lemma mem_of_mem_segment {x : α} (h : x ∈ segment l start stop) : x ∈ l :=
  mem_of_mem_drop (mem_of_mem_take h)

lemma segment_append (l : List α) {start middle stop : Nat} (h : start ≤ middle)
    (h' : middle ≤ stop) (hstop : stop ≤ l.length) :
    segment l start middle ++ segment l middle stop = segment l start stop := by
  refine ext_getElem? ?_
  intro i
  have hlength : (segment l start middle).length = middle - start := length_segment (by omega)
  by_cases hi : i < middle - start
  · rw [getElem?_append_left (by omega), getElem?_segment, getElem?_segment,
      if_pos (by omega), if_pos (by omega)]
  · rw [getElem?_append_right (by omega), getElem?_segment, getElem?_segment, hlength]
    have hsum : middle + (i - (middle - start)) = start + i := by omega
    rw [hsum]

lemma segment_segment (l : List α) {start stop a b : Nat} (h : start ≤ a) (h' : b ≤ stop) :
    segment (segment l start stop) (a - start) (b - start) = segment l a b := by
  refine ext_getElem? ?_
  intro i
  rw [getElem?_segment, getElem?_segment, getElem?_segment]
  by_cases hi : a + i < b
  · have hsum : start + (a - start + i) = a + i := by omega
    rw [if_pos (by omega), if_pos (by omega), if_pos hi, hsum]
  · rw [if_neg (by omega), if_neg hi]

def window (l : List α) (start stop read : Nat) : List α := segment l start (min read stop)

lemma window_zero (l : List α) (start stop : Nat) : window l start stop 0 = [] := by
  unfold window
  exact segment_of_le (by omega)

lemma window_step (l : List α) {start stop read next : Nat} (h : read ≤ next)
    (hnext : next ≤ l.length) : window l start stop next = window l start stop read ++
      if max read start < min next stop then
        segment (segment l read next) (max read start - read) (min next stop - read) else [] := by
  unfold window
  by_cases hoverlap : max read start < min next stop
  · rw [if_pos hoverlap, segment_segment l (Nat.le_max_left _ _) (Nat.min_le_left _ _)]
    by_cases hbegun : read ≤ start
    · -- the window begins in this chunk
      have hnone : segment l start (min read stop) = [] := segment_of_le (by omega)
      rw [hnone, nil_append, Nat.max_eq_right hbegun]
    · have hread : min read stop = read := by omega
      have hstart : max read start = read := by omega
      rw [hread, hstart]
      exact (segment_append l (by omega) (by omega) (by omega)).symm
  · rw [if_neg hoverlap, append_nil]
    by_cases hended : stop ≤ read
    · rw [Nat.min_eq_right hended, Nat.min_eq_right (by omega)]
    · by_cases hsame : next = read
      · rw [hsame]
      · -- the window has not begun
        have hnone : segment l start (min read stop) = [] := segment_of_le (by omega)
        have hnone' : segment l start (min next stop) = [] := segment_of_le (by omega)
        rw [hnone, hnone']

end Tidex.Lib
