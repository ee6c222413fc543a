/-
  Lib.Tail — what follows the last line feed of a byte string.
-/
import Tidex.Lib.Lines

namespace Tidex.Lib

open List

/-! ## The tail -/

def tailList (bytes : List UInt8) : List UInt8 :=
  (bytes.splitOn lineFeed).getLast?.getD []

def tail (bytes : ByteArray) : ByteArray := ⟨(tailList bytes.data.toList).toArray⟩

/-- The pieces before the tail stay as they are, whatever is put after it. -/
lemma splitOn_append (xs : List UInt8) : ∃ pieces rest, lineFeed ∉ rest ∧
    pieces.length + rest.length ≤ xs.length ∧
    ∀ ys, (xs ++ ys).splitOn lineFeed = pieces ++ (rest ++ ys).splitOn lineFeed := by
  induction xs with
  | nil =>
    refine ⟨[], [], not_mem_nil, Nat.le_refl 0, ?_⟩
    intro ys
    rfl
  | cons x xs ih =>
    obtain ⟨pieces, rest, hrest, hlength, hsplit⟩ := ih
    by_cases hx : x = lineFeed
    · refine ⟨[] :: pieces, rest, hrest, ?_, ?_⟩
      · simp only [length_cons]
        omega
      · intro ys
        have hfeed : (x == lineFeed) = true := beq_iff_eq.mpr hx
        rw [cons_append, splitOn_cons_eq_if_modifyHead, if_pos hfeed, hsplit]
        rfl
    · have hfeed : ¬ (x == lineFeed) = true := by
        rw [beq_iff_eq]
        exact hx
      cases pieces with
      | nil =>
        refine ⟨[], x :: rest, ?_, ?_, ?_⟩
        · intro hmem
          rcases mem_cons.mp hmem with heq | hmem
          · exact hx heq.symm
          · exact hrest hmem
        · simp only [length_cons, length_nil] at hlength ⊢
          omega
        · intro ys
          rw [cons_append, splitOn_cons_eq_if_modifyHead, if_neg hfeed, hsplit, nil_append,
            nil_append, cons_append, splitOn_cons_eq_if_modifyHead, if_neg hfeed]
      | cons piece pieces =>
        refine ⟨(x :: piece) :: pieces, rest, hrest, ?_, ?_⟩
        · simp only [length_cons] at hlength ⊢
          omega
        · intro ys
          rw [cons_append, splitOn_cons_eq_if_modifyHead, if_neg hfeed, hsplit]
          rfl

lemma lineList_tail (xs : List UInt8) : ∃ before, before.length + (tailList xs).length ≤
      xs.length ∧ lineFeed ∉ tailList xs ∧
    lineList xs = before ++ (if tailList xs = [] then [] else [tailList xs]) ∧
    ∀ line, lineFeed ∉ line → line ≠ [] → line.getLast? ≠ some carriageReturn →
      lineList (xs ++ (line ++ [lineFeed])) = before ++ [tailList xs ++ line] := by
  obtain ⟨pieces, rest, hrest, hlength, hsplit⟩ := splitOn_append xs
  have hxs : xs.splitOn lineFeed = pieces ++ [rest] := by
    have hnil := hsplit []
    rwa [append_nil, append_nil, splitOn_eq_singleton hrest] at hnil
  have htail : tailList xs = rest := by
    rw [tailList, hxs, getLast?_concat]
    rfl
  rw [htail]
  refine ⟨pieces.map stripReturn, ?_, hrest, ?_, ?_⟩
  · rw [length_map]
    exact hlength
  · unfold lineList
    simp only [hxs, dropLast_concat, getLast?_concat, Option.toList_some]
    cases rest with
    | nil => rfl
    | cons x rest => rfl
  · intro line hline hne hreturn
    have hglued : (rest ++ (line ++ [lineFeed])).splitOn lineFeed = [rest ++ line] ++ [[]] := by
      have hfeed : lineFeed ∉ rest ++ line := by
        rw [mem_append, not_or]
        exact ⟨hrest, hline⟩
      rw [← append_assoc, splitOn_append_cons_self, splitOn_eq_singleton hfeed]
      rfl
    have hstrip : stripReturn (rest ++ line) = rest ++ line := by
      unfold stripReturn
      rw [getLast?_append_of_ne_nil _ hne, if_neg hreturn]
    have hwhole : (xs ++ (line ++ [lineFeed])).splitOn lineFeed =
        (pieces ++ [rest ++ line]) ++ [[]] := by
      rw [hsplit, hglued, append_assoc]
    unfold lineList
    simp only [hwhole, dropLast_concat, getLast?_concat]
    rw [map_append, map_singleton, hstrip]
    simp

lemma lines_append_tail (bytes : ByteArray) : ∃ before,
    lines bytes = before ++ (if tail bytes = ByteArray.empty then [] else [tail bytes]) ∧
    ∀ line : ByteArray, lineFeed ∉ line.data.toList → line.data.toList ≠ [] →
      line.data.toList.getLast? ≠ some carriageReturn →
      lines (bytes ++ withFeed line) = before ++ [tail bytes ++ line] := by
  obtain ⟨before, -, -, hlines, happend⟩ := lineList_tail bytes.data.toList
  refine ⟨before.map fun line => ⟨line.toArray⟩, ?_, ?_⟩
  · unfold lines
    rw [hlines, map_append]
    by_cases hnil : tailList bytes.data.toList = []
    · have htail : tail bytes = ByteArray.empty := by
        rw [tail, hnil]
        rfl
      rw [if_pos hnil, if_pos htail]
      rfl
    · have htail : tail bytes ≠ ByteArray.empty := by
        intro h
        apply hnil
        have hdata := congrArg (fun b : ByteArray => b.data.toList) h
        simpa [tail] using hdata
      rw [if_neg hnil, if_neg htail]
      rfl
  · intro line hfeed hne hreturn
    unfold lines
    rw [ByteArray.data_append, Array.toList_append, toList_withFeed,
      happend _ hfeed hne hreturn, map_append, map_singleton]
    have hglued : (⟨(tailList bytes.data.toList ++ line.data.toList).toArray⟩ : ByteArray) =
        tail bytes ++ line := by
      rw [ByteArray.ext_iff, ByteArray.data_append, tail]
      simp
    rw [hglued]

lemma length_lines_le (bytes : ByteArray) : (lines bytes).length ≤ bytes.size := by
  obtain ⟨before, hlength, -, hlines, -⟩ := lineList_tail bytes.data.toList
  have hsize : bytes.data.toList.length = bytes.size := rfl
  rw [lines, length_map, hlines, length_append, ← hsize]
  by_cases hnil : tailList bytes.data.toList = []
  · rw [if_pos hnil, length_nil]
    omega
  · have hpos := length_pos_of_ne_nil hnil
    rw [if_neg hnil, length_singleton]
    omega

lemma tail_of_unterminated {line : ByteArray} (hfeed : lineFeed ∉ line.data.toList) :
    tail line = line := by
  rw [tail, tailList, splitOn_eq_singleton hfeed]
  rfl

lemma lines_of_unterminated {line : ByteArray} (hfeed : lineFeed ∉ line.data.toList)
    (hne : line.data.toList ≠ []) : lines line = [line] := by
  obtain ⟨before, hlength, -, hlines, -⟩ := lineList_tail line.data.toList
  have htail : tailList line.data.toList = line.data.toList := by
    rw [tailList, splitOn_eq_singleton hfeed]
    rfl
  rw [htail] at hlines hlength
  have hnone : before = [] := length_eq_zero_iff.mp (by omega)
  rw [hnone, if_neg hne, nil_append] at hlines
  rw [lines, hlines]
  rfl

lemma tail_append_withFeed (bytes line : ByteArray) :
    tail (bytes ++ withFeed line) = ByteArray.empty := by
  obtain ⟨pieces, rest, hrest, -, hsplit⟩ := splitOn_append (bytes.data.toList ++ line.data.toList)
  have hlast := hsplit [lineFeed]
  rw [splitOn_append_cons_self_of_not_mem hrest, List.append_assoc, ← toList_withFeed,
    ← Array.toList_append, ← ByteArray.data_append] at hlast
  rw [tail, tailList, hlast]
  simp
  rfl

end Tidex.Lib
