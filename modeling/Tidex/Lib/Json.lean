/-
  Lib.Json — compact JSON documents, their exact text, and unambiguity.
-/
import Mathlib.Algebra.Order.Ring.Nat
import Mathlib.Data.List.Forall2

namespace Tidex.Lib

open List Function

/-- A JSON document with integer numbers. -/
inductive Json where
  | null
  | bool (b : Bool)
  | num (n : Int)
  | str (s : String)
  | arr (elements : List Json)
  | obj (members : List (String × Json))

namespace Json

/-! ## Rendering -/

/-- The character that follows the backslash of a two-character escape. -/
def shortEscape (c : Char) : Option Char :=
  if c = '\x22' then some '\x22'
  else if c = '\x5c' then some '\x5c'
  else if c = '\x08' then some 'b'
  else if c = '\x09' then some 't'
  else if c = '\x0a' then some 'n'
  else if c = '\x0c' then some 'f'
  else if c = '\x0d' then some 'r'
  else none

/-- One character of a string literal, escaped. -/
def escapeChar (c : Char) : List Char :=
  match shortEscape c with
  | some e => ['\x5c', e]
  | none =>
    if c.toNat < 32 then
      ['\x5c', 'u', '0', '0', Nat.digitChar (c.toNat / 16), Nat.digitChar (c.toNat % 16)]
    else [c]

def quote (s : String) : List Char :=
  '\x22' :: (s.toList.flatMap escapeChar ++ ['\x22'])

def renderInt : Int → List Char
  | .ofNat n => Nat.toDigits 10 n
  | .negSucc n => '-' :: Nat.toDigits 10 (n + 1)

mutual

/-- The compact text of a document, as characters. -/
def render : Json → List Char
  | .null => ['n', 'u', 'l', 'l']
  | .bool true => ['t', 'r', 'u', 'e']
  | .bool false => ['f', 'a', 'l', 's', 'e']
  | .num n => renderInt n
  | .str s => quote s
  | .arr xs => '[' :: renderElements xs
  | .obj ms => '\x7b' :: renderMembers ms

/-- The elements of an array and its closing bracket. -/
def renderElements : List Json → List Char
  | [] => [']']
  | x :: xs => render x ++ renderMoreElements xs

/-- The elements after the first, each behind its comma. -/
def renderMoreElements : List Json → List Char
  | [] => [']']
  | x :: xs => ',' :: (render x ++ renderMoreElements xs)

/-- The members of an object and its closing brace. -/
def renderMembers : List (String × Json) → List Char
  | [] => ['\x7d']
  | (k, v) :: ms => quote k ++ ':' :: (render v ++ renderMoreMembers ms)

/-- The members after the first, each behind its comma. -/
def renderMoreMembers : List (String × Json) → List Char
  | [] => ['\x7d']
  | (k, v) :: ms => ',' :: (quote k ++ ':' :: (render v ++ renderMoreMembers ms))

end

/-! ## String literals are prefix-free -/

/-- Every escape is one plain character, or a backslash and a tail whose first
    character tells the long form from the short ones. -/
lemma escapeChar_cases (c : Char) :
    (∃ e, shortEscape c = some e ∧ escapeChar c = ['\x5c', e] ∧ e ≠ 'u') ∨
    (shortEscape c = none ∧ c.toNat < 32 ∧
      escapeChar c = ['\x5c', 'u', '0', '0', Nat.digitChar (c.toNat / 16),
        Nat.digitChar (c.toNat % 16)]) ∨ (escapeChar c = [c] ∧ c ≠ '\x5c' ∧ c ≠ '\x22') := by
  cases hs : shortEscape c with
  | some e =>
    refine .inl ⟨e, rfl, by simp [escapeChar, hs], ?_⟩
    rintro rfl
    simp only [shortEscape] at hs
    split_ifs at hs <;> simp_all
  | none =>
    by_cases h32 : c.toNat < 32
    · exact .inr (.inl ⟨rfl, h32, by simp [escapeChar, hs, h32]⟩)
    · refine .inr (.inr ⟨by simp [escapeChar, hs, h32], ?_, ?_⟩)
      · rintro rfl
        simp [shortEscape] at hs
      · rintro rfl
        simp [shortEscape] at hs

/-- The character a short escape stands for. -/
def shortUnescape (e : Char) : Char :=
  if e = 'b' then '\x08'
  else if e = 't' then '\x09'
  else if e = 'n' then '\x0a'
  else if e = 'f' then '\x0c'
  else if e = 'r' then '\x0d'
  else e

lemma shortUnescape_of_shortEscape {c e : Char} (h : shortEscape c = some e) :
    shortUnescape e = c := by
  unfold shortEscape at h
  split_ifs at h with h1 h2 h3 h4 h5 h6 h7 <;> cases h <;> subst c <;> decide

lemma shortEscape_inj {c d e : Char} (hc : shortEscape c = some e)
    (hd : shortEscape d = some e) : c = d := by
  rw [← shortUnescape_of_shortEscape hc, shortUnescape_of_shortEscape hd]

variable {m n : Nat}

lemma digitChar_inj_of_lt (hm : m < 16) (hn : n < 16) (h : Nat.digitChar m = Nat.digitChar n) :
    m = n := by
  have hall : ∀ a < 16, ∀ b < 16, Nat.digitChar a = Nat.digitChar b → a = b := by decide
  exact hall m hm n hn h

variable {s t : List Char}

/-- The escapes of two characters, followed by anything, agree only when the
    characters do. -/
lemma escapeChar_append_inj {c d : Char} (h : escapeChar c ++ s = escapeChar d ++ t) :
    c = d ∧ s = t := by
  obtain ⟨e, hce, hcr, hcu⟩ | ⟨-, hc32, hcr⟩ | ⟨hcr, hcb, -⟩ := escapeChar_cases c <;>
    obtain ⟨f, hdf, hdr, hdu⟩ | ⟨-, hd32, hdr⟩ | ⟨hdr, hdb, -⟩ := escapeChar_cases d <;>
    rw [hcr, hdr] at h <;>
    simp only [cons_append, nil_append, cons.injEq, true_and] at h
  · exact ⟨shortEscape_inj hce (h.1 ▸ hdf), h.2⟩
  · exact absurd h.1 hcu
  · exact absurd h.1.symm hdb
  · exact absurd h.1.symm hdu
  · -- both long: the two hexadecimal digits give the code point back
    obtain ⟨hhi, hlo, hst⟩ := h
    have hq : c.toNat / 16 = d.toNat / 16 := digitChar_inj_of_lt (by omega) (by omega) hhi
    have hr : c.toNat % 16 = d.toNat % 16 := digitChar_inj_of_lt (by omega) (by omega) hlo
    have hcd : c.toNat = d.toNat := by omega
    exact ⟨Char.toNat_inj.mp hcd, hst⟩
  · exact absurd h.1.symm hdb
  · exact absurd h.1 hcb
  · exact absurd h.1 hcb
  · exact h

lemma escapeChar_ne_quote (c : Char) (s : List Char) : ∀ t, escapeChar c ++ s ≠ '\x22' :: t := by
  intro t h
  obtain ⟨e, -, hr, -⟩ | ⟨-, -, hr⟩ | ⟨hr, -, hq⟩ := escapeChar_cases c <;>
    rw [hr] at h <;>
    simp only [cons_append, nil_append, cons.injEq] at h
  · exact absurd h.1 (by decide)
  · exact absurd h.1 (by decide)
  · exact hq h.1

lemma escaped_append_inj {l m : List Char}
    (h : l.flatMap escapeChar ++ '\x22' :: s = m.flatMap escapeChar ++ '\x22' :: t) :
    l = m ∧ s = t := by
  induction l generalizing m with
  | nil =>
    cases m with
    | nil => simpa using h
    | cons d m =>
      simp only [flatMap_nil, nil_append, flatMap_cons, append_assoc] at h
      exact absurd h.symm (escapeChar_ne_quote d _ _)
  | cons c l ih =>
    cases m with
    | nil =>
      simp only [flatMap_nil, nil_append, flatMap_cons, append_assoc] at h
      exact absurd h (escapeChar_ne_quote c _ _)
    | cons d m =>
      simp only [flatMap_cons, append_assoc] at h
      obtain ⟨rfl, hrest⟩ := escapeChar_append_inj h
      obtain ⟨rfl, rfl⟩ := ih hrest
      exact ⟨rfl, rfl⟩

lemma quote_append_inj {a b : String} (h : quote a ++ s = quote b ++ t) : a = b ∧ s = t := by
  simp only [quote, cons_append, append_assoc, nil_append, cons.injEq, true_and] at h
  obtain ⟨hab, hst⟩ := escaped_append_inj h
  exact ⟨String.toList_inj.mp hab, hst⟩

/-! ## Integers are prefix-free before a delimiter -/

/-- What may follow a value inside a document: nothing, or no digit. -/
def Delimited (s : List Char) : Prop := ∀ c t, s = c :: t → c.isDigit = false

@[simp] lemma delimited_nil : Delimited [] := by
  intro c t h
  cases h

variable {c : Char}

@[simp] lemma delimited_cons {s : List Char} : Delimited (c :: s) ↔ c.isDigit = false := by
  constructor
  · intro h
    exact h c s rfl
  · rintro h d t ⟨⟩
    exact h

lemma digits_append_inj {k l : List Char} (hk : ∀ c ∈ k, c.isDigit = true)
    (hl : ∀ c ∈ l, c.isDigit = true) (hs : Delimited s) (ht : Delimited t) (h : k ++ s = l ++ t) :
    k = l ∧ s = t := by
  induction k generalizing l with
  | nil =>
    cases l with
    | nil => exact ⟨rfl, by simpa using h⟩
    | cons d l =>
      simp only [nil_append, cons_append] at h
      have hd := hl d (by simp)
      rw [hs d (l ++ t) h] at hd
      cases hd
  | cons c k ih =>
    cases l with
    | nil =>
      simp only [nil_append, cons_append] at h
      have hc := hk c (by simp)
      rw [ht c (k ++ s) h.symm] at hc
      cases hc
    | cons d l =>
      simp only [cons_append, cons.injEq] at h
      obtain ⟨rfl, hrest⟩ := h
      obtain ⟨rfl, rfl⟩ := ih (fun e he => hk e (by simp [he])) (fun e he => hl e (by simp [he]))
        hrest
      exact ⟨rfl, rfl⟩

lemma toDigits_inj (h : Nat.toDigits 10 m = Nat.toDigits 10 n) : m = n := by
  rw [← Nat.ofDigitChars_ten_toDigits (n := m), h, Nat.ofDigitChars_ten_toDigits]

lemma toDigits_append_inj (hs : Delimited s) (ht : Delimited t)
    (h : Nat.toDigits 10 m ++ s = Nat.toDigits 10 n ++ t) : m = n ∧ s = t := by
  obtain ⟨hmn, hst⟩ := digits_append_inj
    (fun c hc => Nat.isDigit_of_mem_toDigits (by decide) (by decide) hc)
    (fun c hc => Nat.isDigit_of_mem_toDigits (by decide) (by decide) hc) hs ht h
  exact ⟨toDigits_inj hmn, hst⟩

lemma toDigits_head (n : Nat) : ∃ c t, Nat.toDigits 10 n = c :: t ∧ c.isDigit = true := by
  cases h : Nat.toDigits 10 n with
  | nil => exact absurd h Nat.toDigits_ne_nil
  | cons c t =>
    exact ⟨c, t, rfl, Nat.isDigit_of_mem_toDigits (b := 10) (n := n) (by decide) (by decide)
      (by rw [h]; simp)⟩

lemma renderInt_append_inj {m n : Int} (hs : Delimited s) (ht : Delimited t)
    (h : renderInt m ++ s = renderInt n ++ t) : m = n ∧ s = t := by
  cases m with
  | ofNat m =>
    cases n with
    | ofNat n =>
      obtain ⟨rfl, hst⟩ := toDigits_append_inj hs ht h
      exact ⟨rfl, hst⟩
    | negSucc n =>
      obtain ⟨c, u, hm, hc⟩ := toDigits_head m
      simp only [renderInt, hm, cons_append, cons.injEq] at h
      rw [h.1] at hc
      exact absurd hc (by decide)
  | negSucc m =>
    cases n with
    | ofNat n =>
      obtain ⟨c, u, hn, hc⟩ := toDigits_head n
      simp only [renderInt, hn, cons_append, cons.injEq] at h
      rw [← h.1] at hc
      exact absurd hc (by decide)
    | negSucc n =>
      simp only [renderInt, cons_append, cons.injEq, true_and] at h
      obtain ⟨hmn, hst⟩ := toDigits_append_inj hs ht h
      have : m = n := by omega
      exact ⟨by rw [this], hst⟩

/-! ## Documents are prefix-free before a delimiter -/

/-- The kind of a document, told by the first character of its text. -/
def kind : Json → Nat
  | .null => 0
  | .bool true => 1
  | .bool false => 2
  | .num _ => 3
  | .str _ => 4
  | .arr _ => 5
  | .obj _ => 6

/-- The kind of document a first character announces; 7 for a closing bracket. -/
def headKind (c : Char) : Nat :=
  if c = 'n' then 0
  else if c = 't' then 1
  else if c = 'f' then 2
  else if c.isDigit ∨ c = '-' then 3
  else if c = '\x22' then 4
  else if c = '[' then 5
  else if c = '\x7b' then 6
  else 7

lemma headKind_digit (hc : c.isDigit = true) : headKind c = 3 := by
  have hn : c ≠ 'n' := by rintro rfl; exact absurd hc (by decide)
  have ht : c ≠ 't' := by rintro rfl; exact absurd hc (by decide)
  have hf : c ≠ 'f' := by rintro rfl; exact absurd hc (by decide)
  simp [headKind, hn, ht, hf, hc]

lemma render_head (j : Json) : ∃ c t, render j = c :: t ∧ headKind c = kind j := by
  cases j with
  | null => exact ⟨_, _, by rw [render], by decide⟩
  | bool b =>
    cases b with
    | false => exact ⟨_, _, by rw [render], by decide⟩
    | true => exact ⟨_, _, by rw [render], by decide⟩
  | num n =>
    cases n with
    | ofNat n =>
      obtain ⟨c, t, h, hc⟩ := toDigits_head n
      exact ⟨c, t, by rw [render, renderInt, h], headKind_digit hc⟩
    | negSucc n => exact ⟨_, _, by rw [render, renderInt], by simp only [kind]; decide⟩
  | str s => exact ⟨_, _, by rw [render, quote], by simp only [kind]; decide⟩
  | arr xs => exact ⟨_, _, by rw [render], by simp only [kind]; decide⟩
  | obj ms => exact ⟨_, _, by rw [render], by simp only [kind]; decide⟩

lemma kind_eq_of_render {j j' : Json} (h : render j ++ s = render j' ++ t) :
    kind j = kind j' := by
  obtain ⟨c, u, hj, hc⟩ := render_head j
  obtain ⟨d, v, hj', hd⟩ := render_head j'
  rw [hj, hj', cons_append, cons_append, cons.injEq] at h
  rw [← hc, ← hd, h.1]

lemma render_ne_close {j : Json} (hc : headKind c = 7) : render j ++ s ≠ c :: t := by
  intro h
  obtain ⟨d, u, hj, hd⟩ := render_head j
  rw [hj, cons_append, cons.injEq] at h
  rw [h.1, hc] at hd
  cases j with
  | bool b => cases b <;> cases hd
  | _ => cases hd

@[simp] lemma delimited_renderMoreElements (xs : List Json) (s : List Char) :
    Delimited (renderMoreElements xs ++ s) := by
  cases xs with
  | nil => rw [renderMoreElements]; simp [Char.isDigit]
  | cons x xs => rw [renderMoreElements]; simp [Char.isDigit]

@[simp] lemma delimited_renderMoreMembers (ms : List (String × Json)) (s : List Char) :
    Delimited (renderMoreMembers ms ++ s) := by
  cases ms with
  | nil => rw [renderMoreMembers]; simp [Char.isDigit]
  | cons m ms => rw [renderMoreMembers]; simp [Char.isDigit]

lemma more_of_elements {xs ys : List Json}
    (h : renderElements xs ++ s = renderElements ys ++ t) :
    renderMoreElements xs ++ s = renderMoreElements ys ++ t := by
  cases xs with
  | nil =>
    cases ys with
    | nil => exact h
    | cons y ys =>
      rw [renderElements, renderElements, append_assoc] at h
      exact absurd h.symm (render_ne_close (by decide))
  | cons x xs =>
    cases ys with
    | nil =>
      rw [renderElements, renderElements, append_assoc] at h
      exact absurd h (render_ne_close (by decide))
    | cons y ys =>
      rw [renderElements, renderElements] at h
      rw [renderMoreElements, renderMoreElements, cons_append, cons_append, h]

lemma more_of_members {ms ns : List (String × Json)}
    (h : renderMembers ms ++ s = renderMembers ns ++ t) :
    renderMoreMembers ms ++ s = renderMoreMembers ns ++ t := by
  cases ms with
  | nil =>
    cases ns with
    | nil => exact h
    | cons n ns => simp [renderMembers, quote] at h
  | cons m ms =>
    cases ns with
    | nil => simp [renderMembers, quote] at h
    | cons n ns =>
      rw [renderMembers, renderMembers] at h
      rw [renderMoreMembers, renderMoreMembers, cons_append, cons_append, h]

mutual

/-- A document before a delimiter reads back in one way. -/
lemma render_append_inj : ∀ (j j' : Json) (s t : List Char), Delimited s → Delimited t →
    render j ++ s = render j' ++ t → j = j' ∧ s = t
  | .null, j', s, t, _, _, h => by
    have hk := kind_eq_of_render h
    cases j' with
    | null => exact ⟨rfl, append_cancel_left h⟩
    | bool b => cases b <;> cases hk
    | _ => cases hk
  | .bool b, j', s, t, _, _, h => by
    have hk := kind_eq_of_render h
    cases j' with
    | bool b' =>
      have hb : b = b' := by cases b <;> cases b' <;> first | rfl | cases hk
      subst hb
      exact ⟨rfl, append_cancel_left h⟩
    | _ => cases b <;> cases hk
  | .num n, j', s, t, hs, ht, h => by
    have hk := kind_eq_of_render h
    cases j' with
    | num n' =>
      rw [render, render] at h
      obtain ⟨rfl, hst⟩ := renderInt_append_inj hs ht h
      exact ⟨rfl, hst⟩
    | bool b => cases b <;> cases hk
    | _ => cases hk
  | .str a, j', s, t, _, _, h => by
    have hk := kind_eq_of_render h
    cases j' with
    | str b =>
      rw [render, render] at h
      obtain ⟨rfl, hst⟩ := quote_append_inj h
      exact ⟨rfl, hst⟩
    | bool b => cases b <;> cases hk
    | _ => cases hk
  | .arr xs, j', s, t, _, _, h => by
    have hk := kind_eq_of_render h
    cases j' with
    | arr ys =>
      rw [render, render, cons_append, cons_append, cons.injEq] at h
      obtain ⟨rfl, hst⟩ := renderMoreElements_append_inj xs ys s t (more_of_elements h.2)
      exact ⟨rfl, hst⟩
    | bool b => cases b <;> cases hk
    | _ => cases hk
  | .obj ms, j', s, t, _, _, h => by
    have hk := kind_eq_of_render h
    cases j' with
    | obj ns =>
      rw [render, render, cons_append, cons_append, cons.injEq] at h
      obtain ⟨rfl, hst⟩ := renderMoreMembers_append_inj ms ns s t (more_of_members h.2)
      exact ⟨rfl, hst⟩
    | bool b => cases b <;> cases hk
    | _ => cases hk

lemma renderMoreElements_append_inj : ∀ (xs ys : List Json) (s t : List Char),
    renderMoreElements xs ++ s = renderMoreElements ys ++ t → xs = ys ∧ s = t
  | [], [], s, t, h => ⟨rfl, append_cancel_left h⟩
  | [], y :: ys, s, t, h => by
    simp [renderMoreElements] at h
  | x :: xs, [], s, t, h => by
    simp [renderMoreElements] at h
  | x :: xs, y :: ys, s, t, h => by
    rw [renderMoreElements, renderMoreElements, cons_append, cons_append,
      cons.injEq, append_assoc, append_assoc] at h
    obtain ⟨rfl, hrest⟩ := render_append_inj x y _ _ (by simp) (by simp) h.2
    obtain ⟨rfl, hst⟩ := renderMoreElements_append_inj xs ys s t hrest
    exact ⟨rfl, hst⟩

lemma renderMoreMembers_append_inj : ∀ (ms ns : List (String × Json)) (s t : List Char),
    renderMoreMembers ms ++ s = renderMoreMembers ns ++ t → ms = ns ∧ s = t
  | [], [], s, t, h => ⟨rfl, append_cancel_left h⟩
  | [], (k, v) :: ns, s, t, h => by
    simp [renderMoreMembers] at h
  | (k, v) :: ms, [], s, t, h => by
    simp [renderMoreMembers] at h
  | (k, v) :: ms, (l, w) :: ns, s, t, h => by
    rw [renderMoreMembers, renderMoreMembers, cons_append, cons_append,
      cons.injEq, append_assoc, append_assoc] at h
    obtain ⟨rfl, hvalue⟩ := quote_append_inj h.2
    simp only [cons_append, append_assoc, cons.injEq, true_and] at hvalue
    obtain ⟨rfl, hrest⟩ := render_append_inj v w _ _ (by simp) (by simp) hvalue
    obtain ⟨rfl, hst⟩ := renderMoreMembers_append_inj ms ns s t hrest
    exact ⟨rfl, hst⟩

end

lemma render_injective : Injective render := by
  intro j j' h
  have h' : render j ++ [] = render j' ++ [] := by rw [h]
  exact (render_append_inj j j' [] [] (by simp) (by simp) h').1

/-! ## Bytes -/

/-- The UTF-8 bytes of a character sequence. -/
def encodeText (cs : List Char) : ByteArray :=
  (String.ofList cs).toByteArray

/-- The length in bytes of a character sequence. -/
def textSize (cs : List Char) : Nat :=
  (cs.map Char.utf8Size).sum

@[simp] lemma textSize_nil : textSize [] = 0 := rfl

@[simp] lemma textSize_cons (c : Char) (cs : List Char) :
    textSize (c :: cs) = c.utf8Size + textSize cs := by
  simp [textSize]

@[simp] lemma textSize_append (cs ds : List Char) :
    textSize (cs ++ ds) = textSize cs + textSize ds := by
  simp [textSize]

lemma length_le_textSize (cs : List Char) : cs.length ≤ textSize cs := by
  induction cs with
  | nil => exact Nat.le_refl 0
  | cons c cs ih =>
    have hc := c.utf8Size_pos
    rw [length_cons, textSize, map_cons, sum_cons]
    unfold textSize at ih
    omega

lemma size_encodeText (cs : List Char) : (encodeText cs).size = textSize cs := by
  induction cs with
  | nil => rfl
  | cons c cs ih =>
    have hcons : encodeText (c :: cs) = [c].utf8Encode ++ encodeText cs := utf8Encode_cons
    have hone : [c].utf8Encode.size = c.utf8Size := by simp [utf8Encode_singleton]
    rw [hcons, ByteArray.size_append, hone, ih, textSize_cons]

lemma encodeText_injective : Injective encodeText := by
  intro cs ds h
  exact String.ofList_injective (String.toByteArray_inj.mp h)

-- The comparison of two byte strings that every later definition uses.
instance : DecidableEq ByteArray := ByteArray.instDecidableEq

def toBytes (j : Json) : ByteArray :=
  encodeText (render j)

lemma toBytes_injective : Injective toBytes :=
  encodeText_injective.comp render_injective

/-- The length in bytes of a document's text. -/
def byteSize (j : Json) : Nat :=
  textSize (render j)

@[simp] lemma size_toBytes (j : Json) : (toBytes j).size = byteSize j :=
  size_encodeText (render j)

/-- The length in bytes of an object: two braces, a colon for every member and a
    comma between neighbours, so one byte more than its members with theirs. -/
def membersSize (ms : List (String × Json)) : Nat :=
  (ms.map fun m => textSize (quote m.1) + byteSize m.2 + 2).sum

lemma textSize_renderMoreMembers (ms : List (String × Json)) :
    textSize (renderMoreMembers ms) = membersSize ms + 1 := by
  induction ms with
  | nil => rw [renderMoreMembers]; rfl
  | cons m ms ih =>
    obtain ⟨k, v⟩ := m
    have hcomma : Char.utf8Size ',' = 1 := rfl
    have hcolon : Char.utf8Size ':' = 1 := rfl
    rw [renderMoreMembers]
    simp only [textSize_cons, textSize_append, ih, hcomma, hcolon, membersSize, map_cons,
      sum_cons, byteSize]
    omega

lemma byteSize_obj (ms : List (String × Json)) (hne : ms ≠ []) :
    byteSize (.obj ms) = membersSize ms + 1 := by
  cases ms with
  | nil => exact absurd rfl hne
  | cons m ms =>
    obtain ⟨k, v⟩ := m
    have hbrace : Char.utf8Size '\x7b' = 1 := rfl
    have hcolon : Char.utf8Size ':' = 1 := rfl
    rw [byteSize, render, renderMembers]
    simp only [textSize_cons, textSize_append, textSize_renderMoreMembers, hbrace, hcolon,
      membersSize, map_cons, sum_cons, byteSize]
    omega

/-- The length in bytes of the elements of an array, each with one separator. -/
def elementsSize (xs : List Json) : Nat :=
  (xs.map fun x => byteSize x + 1).sum

lemma textSize_renderMoreElements (xs : List Json) :
    textSize (renderMoreElements xs) = elementsSize xs + 1 := by
  induction xs with
  | nil => rw [renderMoreElements]; rfl
  | cons x xs ih =>
    have hcomma : Char.utf8Size ',' = 1 := rfl
    rw [renderMoreElements]
    simp only [textSize_cons, textSize_append, ih, hcomma, elementsSize, map_cons,
      sum_cons, byteSize]
    omega

lemma byteSize_arr (xs : List Json) (hne : xs ≠ []) :
    byteSize (.arr xs) = elementsSize xs + 1 := by
  cases xs with
  | nil => exact absurd rfl hne
  | cons x xs =>
    have hbracket : Char.utf8Size '[' = 1 := rfl
    rw [byteSize, render, renderElements]
    simp only [textSize_cons, textSize_append, textSize_renderMoreElements, hbracket,
      elementsSize, map_cons, sum_cons, byteSize]
    omega

end Json

end Tidex.Lib
