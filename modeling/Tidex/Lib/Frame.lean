/-
  Lib.Frame — length-prefixed byte strings.
-/
import Tidex.Lib.Bytes

namespace Tidex.Lib

open List ByteArray

/-! ## Big-endian words -/

/-- The bytes of a machine word, the highest first. -/
def be64 (n : Nat) : ByteArray :=
  ⟨((List.range 8).reverse.map fun i => (n / 256 ^ i).toUInt8).toArray⟩

/-- The value of bytes, the highest first. -/
def ofBe (bytes : ByteArray) : Nat :=
  bytes.data.toList.foldl (fun n byte => 256 * n + byte.toNat) 0

@[simp] lemma size_be64 (n : Nat) : (be64 n).size = 8 := rfl

lemma ofBe_be64 {n : Nat} (h : n < 2 ^ 64) : ofBe (be64 n) = n := by
  have hbyte : ∀ m : Nat, m.toUInt8.toNat = m % 256 := fun m => rfl
  unfold ofBe be64
  simp only [range, range.loop, reverse_cons, reverse_nil, nil_append,
    cons_append, map_cons, map_nil, foldl_cons, foldl_nil, hbyte]
  omega

lemma be64_inj {m n : Nat} (hm : m < 2 ^ 64) (hn : n < 2 ^ 64) (h : be64 m = be64 n) : m = n := by
  rw [← ofBe_be64 hm, ← ofBe_be64 hn, h]

/-! ## Parts of one length -/

lemma append_inj_of_size {a b x y : ByteArray} (hsize : a.size = b.size)
    (h : a ++ x = b ++ y) : a = b ∧ x = y := by
  have hdata := congrArg (fun bytes : ByteArray => bytes.data.toList) h
  simp only [data_append, Array.toList_append] at hdata
  have hlength : a.data.toList.length = b.data.toList.length := hsize
  obtain ⟨hab, hxy⟩ := append_inj hdata hlength
  exact ⟨ext (Array.ext' hab), ext (Array.ext' hxy)⟩

/-! ## Framed parts -/

def frame (bytes : ByteArray) : ByteArray :=
  be64 bytes.size ++ bytes

/-- A framed part is read off the front of what follows. -/
lemma frame_append_inj {a b x y : ByteArray} (ha : a.size < 2 ^ 64) (hb : b.size < 2 ^ 64)
    (h : frame a ++ x = frame b ++ y) : a = b ∧ x = y := by
  unfold frame at h
  rw [ByteArray.append_assoc, ByteArray.append_assoc] at h
  have hwords : (be64 a.size).size = (be64 b.size).size := by rw [size_be64, size_be64]
  obtain ⟨hword, hrest⟩ := append_inj_of_size hwords h
  exact append_inj_of_size (be64_inj ha hb hword) hrest

/-! ## Words and records -/

lemma be64_append_inj {m n : Nat} {x y : ByteArray} (hm : m < 2 ^ 64) (hn : n < 2 ^ 64)
    (h : be64 m ++ x = be64 n ++ y) : m = n ∧ x = y := by
  have hsize : (be64 m).size = (be64 n).size := by rw [size_be64, size_be64]
  obtain ⟨hword, hrest⟩ := append_inj_of_size hsize h
  exact ⟨be64_inj hm hn hword, hrest⟩

/-- A known number of records is read off the front, where each of them is. -/
lemma joined_map_append_inj {α : Type} {bytes : α → ByteArray} {p : α → Prop}
    (hread : ∀ a b x y, p a → p b → bytes a ++ x = bytes b ++ y → a = b ∧ x = y)
    {as bs : List α} {x y : ByteArray} (has : ∀ a ∈ as, p a) (hbs : ∀ b ∈ bs, p b)
    (hlength : as.length = bs.length)
    (h : joined (as.map bytes) ++ x = joined (bs.map bytes) ++ y) : as = bs ∧ x = y := by
  induction as generalizing bs with
  | nil =>
    obtain rfl := length_eq_zero_iff.mp hlength.symm
    simpa using h
  | cons a as ih =>
    cases bs with
    | nil => cases hlength
    | cons b bs =>
      rw [map_cons, map_cons, joined_cons, joined_cons, ByteArray.append_assoc,
        ByteArray.append_assoc] at h
      obtain ⟨rfl, hrest⟩ := hread a b _ _ (has a mem_cons_self) (hbs b mem_cons_self) h
      obtain ⟨rfl, htail⟩ := ih (fun c hc => has c (mem_cons_of_mem _ hc))
        (fun c hc => hbs c (mem_cons_of_mem _ hc)) (Nat.succ.inj hlength) hrest
      exact ⟨rfl, htail⟩

end Tidex.Lib
