/-
  Lib.Lines — a byte string as lines.
-/
import Tidex.Lib.Json

namespace Tidex.Lib

open List Json String

/-! ## Lines -/

def lineFeed : UInt8 := 10
def carriageReturn : UInt8 := 13

def stripReturn (line : List UInt8) : List UInt8 :=
  if line.getLast? = some carriageReturn then line.dropLast else line

def lineList (bytes : List UInt8) : List (List UInt8) :=
  let pieces := bytes.splitOn lineFeed
  pieces.dropLast.map stripReturn ++ (pieces.getLast?.toList.filter fun rest => !rest.isEmpty)

def lines (bytes : ByteArray) : List ByteArray :=
  (lineList bytes.data.toList).map fun line => ⟨line.toArray⟩

/-- Nothing follows the last line feed. -/
def Terminated (bytes : ByteArray) : Prop :=
  bytes = ByteArray.empty ∨ ∃ init, bytes.data.toList = init ++ [lineFeed]

def withFeed (line : ByteArray) : ByteArray := line.push lineFeed

lemma toList_withFeed (line : ByteArray) :
    (withFeed line).data.toList = line.data.toList ++ [lineFeed] :=
  Array.toList_push

lemma terminated_append_withFeed (bytes line : ByteArray) :
    Terminated (bytes ++ withFeed line) := by
  refine .inr ⟨bytes.data.toList ++ line.data.toList, ?_⟩
  rw [ByteArray.data_append, Array.toList_append, toList_withFeed, List.append_assoc]

lemma lineList_feed (line : List UInt8) (hfeed : lineFeed ∉ line)
    (hreturn : line.getLast? ≠ some carriageReturn) : lineList (line ++ [lineFeed]) = [line] := by
  have hpieces : (line ++ [lineFeed]).splitOn lineFeed = [line] ++ [[]] := by
    rw [splitOn_append_cons_self, splitOn_eq_singleton hfeed]
    rfl
  unfold lineList
  simp only [hpieces, dropLast_concat, getLast?_concat]
  unfold stripReturn
  rw [map_singleton, if_neg hreturn]
  rfl

lemma lineList_append (init line : List UInt8) (hfeed : lineFeed ∉ line)
    (hreturn : line.getLast? ≠ some carriageReturn) :
    lineList ((init ++ [lineFeed]) ++ (line ++ [lineFeed])) =
      lineList (init ++ [lineFeed]) ++ [line] := by
  have hinit : (init ++ [lineFeed]).splitOn lineFeed = init.splitOn lineFeed ++ [[]] := by
    rw [splitOn_append_cons_self]
    rfl
  have hboth : ((init ++ [lineFeed]) ++ (line ++ [lineFeed])).splitOn lineFeed =
      (init.splitOn lineFeed ++ [line]) ++ [[]] := by
    rw [List.append_assoc, singleton_append, splitOn_append_cons_self,
      splitOn_append_cons_self, splitOn_eq_singleton hfeed, List.append_assoc]
    rfl
  unfold lineList
  simp only [hinit, hboth, dropLast_concat, getLast?_concat, map_append, map_singleton]
  have hstrip : stripReturn line = line := by
    unfold stripReturn
    rw [if_neg hreturn]
  rw [hstrip]
  simp

lemma lines_append {bytes line : ByteArray} (hbytes : Terminated bytes)
    (hfeed : lineFeed ∉ line.data.toList)
    (hreturn : line.data.toList.getLast? ≠ some carriageReturn) :
    lines (bytes ++ withFeed line) = lines bytes ++ [line] := by
  have hline : (⟨line.data.toList.toArray⟩ : ByteArray) = line := by
    rw [Array.toArray_toList]
  unfold lines
  rw [ByteArray.data_append, Array.toList_append, toList_withFeed]
  rcases hbytes with rfl | ⟨init, hinit⟩
  · have hempty : ByteArray.empty.data.toList = [] := rfl
    rw [hempty, nil_append, lineList_feed _ hfeed hreturn, map_singleton, hline]
    rfl
  · rw [hinit, lineList_append init _ hfeed hreturn, map_append, map_singleton, hline]

/-! ## Text without a line feed -/

variable {byte : UInt8}

lemma le_of_mem_utf8EncodeChar {c : Char} (h : byte ∈ utf8EncodeChar c)
    (hsize : c.utf8Size ≠ 1) : 128 ≤ byte := by
  have hor : ∀ (x y : UInt8), 128 ≤ y → 128 ≤ x ||| y := by
    intro x y hy
    rw [UInt8.le_iff_toNat_le, UInt8.toNat_or]
    rw [UInt8.le_iff_toNat_le] at hy
    exact hy.trans Nat.right_le_or
  have hle := c.utf8Size_le_four
  have hpos := c.utf8Size_pos
  obtain h2 | h3 | h4 : c.utf8Size = 2 ∨ c.utf8Size = 3 ∨ c.utf8Size = 4 := by omega
  · rw [utf8EncodeChar_eq_cons_cons h2] at h
    simp only [mem_cons, not_mem_nil, or_false] at h
    rcases h with rfl | rfl <;> exact hor _ _ (by decide)
  · rw [utf8EncodeChar_eq_cons_cons_cons h3] at h
    simp only [mem_cons, not_mem_nil, or_false] at h
    rcases h with rfl | rfl | rfl <;> exact hor _ _ (by decide)
  · rw [utf8EncodeChar_eq_cons_cons_cons_cons h4] at h
    simp only [mem_cons, not_mem_nil, or_false] at h
    rcases h with rfl | rfl | rfl | rfl <;> exact hor _ _ (by decide)

lemma eq_of_mem_utf8EncodeChar {c : Char} (h : byte ∈ utf8EncodeChar c)
    (hlt : byte < 128) : c.toNat = byte.toNat := by
  by_cases hone : c.utf8Size = 1
  · rw [utf8EncodeChar_eq_singleton hone, mem_singleton] at h
    rw [Char.utf8Size_eq_one_iff, UInt32.le_iff_toNat_le] at hone
    have hval : c.val.toNat ≤ 127 := hone
    rw [h, UInt32.toNat_toUInt8]
    show c.val.toNat = _
    omega
  · have hle := le_of_mem_utf8EncodeChar h hone
    rw [UInt8.le_iff_toNat_le] at hle
    rw [UInt8.lt_iff_toNat_lt] at hlt
    omega

variable {cs : List Char}

lemma mem_encodeText :
    byte ∈ (encodeText cs).data.toList ↔ ∃ c ∈ cs, byte ∈ utf8EncodeChar c := by
  unfold encodeText
  rw [toByteArray_ofList]
  unfold utf8Encode
  rw [← mem_flatMap]
  simp

/-- Text without a line feed has no such byte. -/
lemma lineFeed_not_mem (h : '\n' ∉ cs) : lineFeed ∉ (encodeText cs).data.toList := by
  intro hmem
  obtain ⟨c, hc, hbyte⟩ := mem_encodeText.mp hmem
  have hval := eq_of_mem_utf8EncodeChar hbyte (by decide)
  have hfeed : c = '\n' := Char.toNat_inj.mp hval
  exact h (hfeed ▸ hc)

lemma getLast?_encodeText_ne (h : '\r' ∉ cs) :
    (encodeText cs).data.toList.getLast? ≠ some carriageReturn := by
  intro hlast
  obtain ⟨c, hc, hbyte⟩ := mem_encodeText.mp (mem_of_getLast? hlast)
  have hval := eq_of_mem_utf8EncodeChar hbyte (by decide)
  have hreturn : c = '\r' := Char.toNat_inj.mp hval
  exact h (hreturn ▸ hc)

/-! ## Documents are lines -/

namespace Json

def IsControl (c : Char) : Prop := c.toNat < 32

instance : DecidablePred IsControl := fun c => inferInstanceAs (Decidable (c.toNat < 32))

lemma not_control_escapeChar (c d : Char) (h : d ∈ escapeChar c) : ¬IsControl d := by
  have hdigit : ∀ n < 16, ¬IsControl (Nat.digitChar n) := by decide
  rcases escapeChar_cases c with ⟨e, he, hescape, -⟩ | ⟨-, hlt, hescape⟩ | ⟨hescape, -, -⟩
  · rw [hescape, mem_cons, mem_singleton] at h
    rcases h with rfl | rfl
    · decide
    · unfold shortEscape at he
      split_ifs at he <;> cases he <;> decide
  · rw [hescape] at h
    simp only [mem_cons, not_mem_nil, or_false] at h
    rcases h with rfl | rfl | rfl | rfl | rfl | rfl
    · decide
    · decide
    · decide
    · decide
    · exact hdigit _ (by omega)
    · exact hdigit _ (by omega)
  · intro hlt
    rw [hescape, mem_singleton] at h
    subst h
    unfold escapeChar at hescape
    split at hescape
    · cases hescape
    · have hcode : d.toNat < 32 := hlt
      rw [if_pos hcode] at hescape
      have hlength := congrArg List.length hescape
      simp at hlength

lemma not_control_quote (s : String) : ∀ d ∈ quote s, ¬IsControl d := by
  intro d hd
  unfold quote at hd
  rw [mem_cons, mem_append, mem_singleton, mem_flatMap] at hd
  rcases hd with rfl | ⟨c, -, hc⟩ | rfl
  · decide
  · exact not_control_escapeChar c d hc
  · decide

lemma not_control_renderInt (n : Int) : ∀ d ∈ renderInt n, ¬IsControl d := by
  have hdigits : ∀ k, ∀ d ∈ Nat.toDigits 10 k, ¬IsControl d := by
    intro k d hd hlt
    have hdigit := Nat.isDigit_of_mem_toDigits (by decide) (by decide) hd
    simp only [Char.isDigit, Bool.and_eq_true, decide_eq_true_eq, UInt32.le_iff_toNat_le]
      at hdigit
    have hlow : 48 ≤ d.toNat := hdigit.1
    unfold IsControl at hlt
    omega
  intro d hd
  cases n with
  | ofNat k => exact hdigits k d hd
  | negSucc k =>
    rw [renderInt, mem_cons] at hd
    rcases hd with rfl | hd
    · decide
    · exact hdigits _ d hd

mutual

/-- A compact document has no control character. -/
lemma not_control_render : ∀ (j : Json), ∀ d ∈ render j, ¬IsControl d
  | .null => by
    rw [render]
    simp [IsControl]
  | .bool true => by
    rw [render]
    simp [IsControl]
  | .bool false => by
    rw [render]
    simp [IsControl]
  | .num n => by
    rw [render]
    exact not_control_renderInt n
  | .str s => by
    rw [render]
    exact not_control_quote s
  | .arr xs => by
    rw [render, forall_mem_cons]
    exact ⟨by decide, not_control_renderElements xs⟩
  | .obj ms => by
    rw [render, forall_mem_cons]
    exact ⟨by decide, not_control_renderMembers ms⟩

lemma not_control_renderElements : ∀ (xs : List Json), ∀ d ∈ renderElements xs, ¬IsControl d
  | [] => by
    rw [renderElements]
    simp [IsControl]
  | x :: xs => by
    rw [renderElements, forall_mem_append]
    exact ⟨not_control_render x, not_control_renderMoreElements xs⟩

lemma not_control_renderMoreElements :
    ∀ (xs : List Json), ∀ d ∈ renderMoreElements xs, ¬IsControl d
  | [] => by
    rw [renderMoreElements]
    simp [IsControl]
  | x :: xs => by
    rw [renderMoreElements, forall_mem_cons, forall_mem_append]
    exact ⟨by decide, not_control_render x, not_control_renderMoreElements xs⟩

lemma not_control_renderMembers :
    ∀ (ms : List (String × Json)), ∀ d ∈ renderMembers ms, ¬IsControl d
  | [] => by
    rw [renderMembers]
    simp [IsControl]
  | (k, v) :: ms => by
    rw [renderMembers, forall_mem_append, forall_mem_cons, forall_mem_append]
    exact ⟨not_control_quote k, by decide, not_control_render v, not_control_renderMoreMembers ms⟩

lemma not_control_renderMoreMembers :
    ∀ (ms : List (String × Json)), ∀ d ∈ renderMoreMembers ms, ¬IsControl d
  | [] => by
    rw [renderMoreMembers]
    simp [IsControl]
  | (k, v) :: ms => by
    rw [renderMoreMembers, forall_mem_cons, forall_mem_append, forall_mem_cons, forall_mem_append]
    exact ⟨by decide, not_control_quote k, by decide, not_control_render v,
      not_control_renderMoreMembers ms⟩

end

lemma lines_append_toBytes {bytes : ByteArray} (hbytes : Terminated bytes) (j : Json) :
    lines (bytes ++ withFeed j.toBytes) = lines bytes ++ [j.toBytes] := by
  apply lines_append hbytes
  · apply lineFeed_not_mem
    intro hmem
    exact not_control_render j _ hmem (by decide)
  · apply getLast?_encodeText_ne
    intro hmem
    exact not_control_render j _ hmem (by decide)

end Json

end Tidex.Lib
