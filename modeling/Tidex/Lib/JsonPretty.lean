/-
  Lib.JsonPretty — documents with line breaks and indentation.
-/
import Tidex.Lib.Json

namespace Tidex.Lib.Json

open List

/-! ## Rendering -/

/-- A line break and the indentation of a depth. -/
def newline (depth : Nat) : List Char :=
  '\n' :: List.replicate (2 * depth) ' '

mutual

def renderPretty (depth : Nat) : Json → List Char
  | .null => ['n', 'u', 'l', 'l']
  | .bool true => ['t', 'r', 'u', 'e']
  | .bool false => ['f', 'a', 'l', 's', 'e']
  | .num n => renderInt n
  | .str s => quote s
  | .arr xs => '[' :: prettyElements depth xs
  | .obj ms => '\x7b' :: prettyMembers depth ms

/-- The elements of an array and its closing bracket. -/
def prettyElements (depth : Nat) : List Json → List Char
  | [] => [']']
  | x :: xs => newline (depth + 1) ++ (renderPretty (depth + 1) x ++ prettyMoreElements depth xs)

/-- The elements after the first, each behind its comma. -/
def prettyMoreElements (depth : Nat) : List Json → List Char
  | [] => newline depth ++ [']']
  | x :: xs =>
    ',' :: (newline (depth + 1) ++ (renderPretty (depth + 1) x ++ prettyMoreElements depth xs))

/-- The members of an object and its closing brace. -/
def prettyMembers (depth : Nat) : List (String × Json) → List Char
  | [] => ['\x7d']
  | (k, v) :: ms => newline (depth + 1) ++
    (quote k ++ (':' :: ' ' :: (renderPretty (depth + 1) v ++ prettyMoreMembers depth ms)))

/-- The members after the first, each behind its comma. -/
def prettyMoreMembers (depth : Nat) : List (String × Json) → List Char
  | [] => newline depth ++ ['\x7d']
  | (k, v) :: ms => ',' :: (newline (depth + 1) ++
    (quote k ++ (':' :: ' ' :: (renderPretty (depth + 1) v ++ prettyMoreMembers depth ms))))

end

/-! ## Taking the blanks away -/

/-- Where a scan stands: between literals, in one, or behind its backslash. -/
inductive Scan where
  | outside
  | inside
  | escaped

/-- The text without the blanks outside string literals. -/
def squeeze : Scan → List Char → List Char
  | _, [] => []
  | .outside, c :: cs =>
    if c = '\x22' then c :: squeeze .inside cs
    else if c = ' ' ∨ c = '\n' then squeeze .outside cs
    else c :: squeeze .outside cs
  | .inside, c :: cs =>
    if c = '\x22' then c :: squeeze .outside cs
    else if c = '\x5c' then c :: squeeze .escaped cs
    else c :: squeeze .inside cs
  | .escaped, c :: cs => c :: squeeze .inside cs

lemma squeeze_nil (scan : Scan) : squeeze scan [] = [] := by
  cases scan with
  | outside => rfl
  | inside => rfl
  | escaped => rfl

lemma squeeze_outside (c : Char) (cs : List Char) :
    squeeze .outside (c :: cs) =
      if c = '\x22' then c :: squeeze .inside cs
      else if c = ' ' ∨ c = '\n' then squeeze .outside cs
      else c :: squeeze .outside cs := rfl

lemma squeeze_inner (c : Char) (cs : List Char) :
    squeeze .inside (c :: cs) =
      if c = '\x22' then c :: squeeze .outside cs
      else if c = '\x5c' then c :: squeeze .escaped cs
      else c :: squeeze .inside cs := rfl

lemma squeeze_escaped (c : Char) (cs : List Char) :
    squeeze .escaped (c :: cs) = c :: squeeze .inside cs := rfl

/-- A character that a scan between literals keeps, and stays between them. -/
def Plain (c : Char) : Prop := c ≠ '\x22' ∧ c ≠ ' ' ∧ c ≠ '\n'

instance (c : Char) : Decidable (Plain c) := inferInstanceAs (Decidable (_ ∧ _ ∧ _))

lemma squeeze_plain {c : Char} (hc : Plain c) (s : List Char) :
    squeeze .outside (c :: s) = c :: squeeze .outside s := by
  rw [squeeze_outside, if_neg hc.1, if_neg (not_or.mpr hc.2)]

lemma squeeze_plain_append {l : List Char} (hl : ∀ c ∈ l, Plain c) (s : List Char) :
    squeeze .outside (l ++ s) = l ++ squeeze .outside s := by
  induction l with
  | nil => rfl
  | cons c l ih =>
    rw [forall_mem_cons] at hl
    rw [cons_append, squeeze_plain hl.1, ih hl.2, cons_append]

@[simp] lemma squeeze_space (s : List Char) :
    squeeze .outside (' ' :: s) = squeeze .outside s := by
  rw [squeeze_outside, if_neg (by decide), if_pos (.inl rfl)]

@[simp] lemma squeeze_break (s : List Char) :
    squeeze .outside ('\n' :: s) = squeeze .outside s := by
  rw [squeeze_outside, if_neg (by decide), if_pos (.inr rfl)]

@[simp] lemma squeeze_newline (depth : Nat) (s : List Char) :
    squeeze .outside (newline depth ++ s) = squeeze .outside s := by
  unfold newline
  rw [cons_append, squeeze_break]
  generalize 2 * depth = n
  induction n with
  | zero => rfl
  | succ n ih => rw [replicate_succ, cons_append, squeeze_space, ih]

lemma squeeze_inside {c : Char} (hquote : c ≠ '\x22') (hslash : c ≠ '\x5c') (s : List Char) :
    squeeze .inside (c :: s) = c :: squeeze .inside s := by
  rw [squeeze_inner, if_neg hquote, if_neg hslash]

lemma squeeze_backslash (e : Char) (s : List Char) :
    squeeze .inside ('\x5c' :: e :: s) = '\x5c' :: e :: squeeze .inside s := by
  rw [squeeze_inner, if_neg (by decide), if_pos rfl, squeeze_escaped]

lemma digitChar_ne (n : Nat) : Nat.digitChar n ≠ '\x22' ∧ Nat.digitChar n ≠ '\x5c' := by
  simp

lemma squeeze_escapeChar (c : Char) (s : List Char) :
    squeeze .inside (escapeChar c ++ s) = escapeChar c ++ squeeze .inside s := by
  rcases escapeChar_cases c with ⟨e, -, hc, -⟩ | ⟨-, hlt, hc⟩ | ⟨hc, hslash, hquote⟩
  · rw [hc]
    exact squeeze_backslash e s
  · have hhigh := digitChar_ne (c.toNat / 16)
    have hlow := digitChar_ne (c.toNat % 16)
    rw [hc]
    show squeeze .inside ('\x5c' :: 'u' :: '0' :: '0' :: Nat.digitChar (c.toNat / 16) ::
      Nat.digitChar (c.toNat % 16) :: s) = _
    rw [squeeze_backslash, squeeze_inside (by decide) (by decide),
      squeeze_inside (by decide) (by decide), squeeze_inside hhigh.1 hhigh.2,
      squeeze_inside hlow.1 hlow.2]
    rfl
  · rw [hc]
    exact squeeze_inside hquote hslash s

lemma squeeze_quote (k : String) (s : List Char) :
    squeeze .outside (quote k ++ s) = quote k ++ squeeze .outside s := by
  have hbody : ∀ (l t : List Char), squeeze .inside (l.flatMap escapeChar ++ t) =
      l.flatMap escapeChar ++ squeeze .inside t := by
    intro l t
    induction l with
    | nil => rfl
    | cons c l ih =>
      rw [flatMap_cons, append_assoc, squeeze_escapeChar, ih, append_assoc]
  unfold quote
  rw [cons_append, squeeze_outside, if_pos rfl, append_assoc, hbody]
  show '\x22' :: (_ ++ squeeze .inside ('\x22' :: s)) = _
  rw [squeeze_inner, if_pos rfl]
  simp

lemma plain_of_isDigit {c : Char} (hc : c.isDigit = true) : Plain c := by
  refine ⟨?_, ?_, ?_⟩
  · intro h
    rw [h] at hc
    exact absurd hc (by decide)
  · intro h
    rw [h] at hc
    exact absurd hc (by decide)
  · intro h
    rw [h] at hc
    exact absurd hc (by decide)

lemma plain_of_mem_renderInt {n : Int} {c : Char} (hc : c ∈ renderInt n) : Plain c := by
  cases n with
  | ofNat n => exact plain_of_isDigit (Nat.isDigit_of_mem_toDigits (by decide) (by decide) hc)
  | negSucc n =>
    rw [renderInt, mem_cons] at hc
    rcases hc with hc | hc
    · rw [hc]
      decide
    · exact plain_of_isDigit (Nat.isDigit_of_mem_toDigits (by decide) (by decide) hc)

lemma squeeze_text {l : List Char} (hl : l.all (fun c => decide (Plain c)) = true)
    (s : List Char) : squeeze .outside (l ++ s) = l ++ squeeze .outside s := by
  refine squeeze_plain_append ?_ s
  intro c hc
  exact of_decide_eq_true (all_eq_true.mp hl c hc)

mutual

/-- Without its blanks an indented document is the compact one. -/
lemma squeeze_renderPretty : ∀ (j : Json) (d : Nat) (s : List Char),
    squeeze .outside (renderPretty d j ++ s) = render j ++ squeeze .outside s
  | .null, d, s => by
    rw [renderPretty, render]
    exact squeeze_text (by decide) s
  | .bool true, d, s => by
    rw [renderPretty, render]
    exact squeeze_text (by decide) s
  | .bool false, d, s => by
    rw [renderPretty, render]
    exact squeeze_text (by decide) s
  | .num n, d, s => by
    rw [renderPretty, render]
    exact squeeze_plain_append (fun c hc => plain_of_mem_renderInt hc) s
  | .str k, d, s => by
    rw [renderPretty, render]
    exact squeeze_quote k s
  | .arr xs, d, s => by
    rw [renderPretty, render, cons_append, squeeze_plain (by decide),
      squeeze_prettyElements xs d s, cons_append]
  | .obj ms, d, s => by
    rw [renderPretty, render, cons_append, squeeze_plain (by decide),
      squeeze_prettyMembers ms d s, cons_append]

lemma squeeze_prettyElements : ∀ (xs : List Json) (d : Nat) (s : List Char),
    squeeze .outside (prettyElements d xs ++ s) = renderElements xs ++ squeeze .outside s
  | [], d, s => by
    rw [prettyElements, renderElements]
    exact squeeze_plain (by decide) s
  | x :: xs, d, s => by
    rw [prettyElements, renderElements, append_assoc, squeeze_newline, append_assoc,
      squeeze_renderPretty x (d + 1), squeeze_prettyMoreElements xs d s, append_assoc]

lemma squeeze_prettyMoreElements : ∀ (xs : List Json) (d : Nat) (s : List Char),
    squeeze .outside (prettyMoreElements d xs ++ s) =
      renderMoreElements xs ++ squeeze .outside s
  | [], d, s => by
    rw [prettyMoreElements, renderMoreElements, append_assoc, squeeze_newline]
    exact squeeze_plain (by decide) s
  | x :: xs, d, s => by
    rw [prettyMoreElements, renderMoreElements, cons_append, squeeze_plain (by decide),
      append_assoc, squeeze_newline, append_assoc, squeeze_renderPretty x (d + 1),
      squeeze_prettyMoreElements xs d s, cons_append, append_assoc]

lemma squeeze_prettyMembers : ∀ (ms : List (String × Json)) (d : Nat) (s : List Char),
    squeeze .outside (prettyMembers d ms ++ s) = renderMembers ms ++ squeeze .outside s
  | [], d, s => by
    rw [prettyMembers, renderMembers]
    exact squeeze_plain (by decide) s
  | (k, v) :: ms, d, s => by
    rw [prettyMembers, renderMembers, append_assoc, squeeze_newline, append_assoc,
      squeeze_quote, cons_append, squeeze_plain (by decide), cons_append, squeeze_space,
      append_assoc, squeeze_renderPretty v (d + 1), squeeze_prettyMoreMembers ms d s]
    simp

lemma squeeze_prettyMoreMembers : ∀ (ms : List (String × Json)) (d : Nat) (s : List Char),
    squeeze .outside (prettyMoreMembers d ms ++ s) = renderMoreMembers ms ++ squeeze .outside s
  | [], d, s => by
    rw [prettyMoreMembers, renderMoreMembers, append_assoc, squeeze_newline]
    exact squeeze_plain (by decide) s
  | (k, v) :: ms, d, s => by
    rw [prettyMoreMembers, renderMoreMembers, cons_append, squeeze_plain (by decide),
      append_assoc, squeeze_newline, append_assoc, squeeze_quote, cons_append,
      squeeze_plain (by decide), cons_append, squeeze_space, append_assoc,
      squeeze_renderPretty v (d + 1), squeeze_prettyMoreMembers ms d s]
    simp

end

/-! ## Lines -/

/-- An indented document and the line break after it. -/
def prettyLine (j : Json) : List Char :=
  renderPretty 0 j ++ ['\n']

lemma squeeze_prettyLine (j : Json) : squeeze .outside (prettyLine j) = render j := by
  unfold prettyLine
  rw [squeeze_renderPretty, squeeze_break, squeeze_nil, append_nil]

/-- Different documents have different indented lines. -/
lemma prettyLine_injective : Function.Injective prettyLine := by
  intro j j' h
  have hsqueezed := congrArg (squeeze .outside) h
  rw [squeeze_prettyLine, squeeze_prettyLine] at hsqueezed
  exact render_injective hsqueezed

def toPrettyLineBytes (j : Json) : ByteArray :=
  encodeText (prettyLine j)

lemma toPrettyLineBytes_injective : Function.Injective toPrettyLineBytes :=
  encodeText_injective.comp prettyLine_injective

lemma getLast?_renderMoreElements (xs : List Json) :
    (renderMoreElements xs).getLast? = some ']' := by
  induction xs with
  | nil => rw [renderMoreElements]; rfl
  | cons x xs ih => rw [renderMoreElements]; simp [getLast?_cons, getLast?_append, ih]

lemma getLast?_renderMoreMembers (ms : List (String × Json)) :
    (renderMoreMembers ms).getLast? = some '\x7d' := by
  induction ms with
  | nil => rw [renderMoreMembers]; rfl
  | cons m ms ih => rw [renderMoreMembers]; simp [getLast?_cons, getLast?_append, ih]

lemma getLast?_render_ne (j : Json) : (render j).getLast? ≠ some '\n' := by
  cases j with
  | null => rw [render]; decide
  | bool b => cases b <;> rw [render] <;> decide
  | num n =>
    rw [render]
    intro h
    have hplain := plain_of_mem_renderInt (mem_of_getLast? h)
    exact hplain.2.2 rfl
  | str k => rw [render, quote]; simp [getLast?_cons, getLast?_append]
  | arr xs =>
    rw [render]
    cases xs with
    | nil => rw [renderElements]; decide
    | cons x xs =>
      rw [renderElements]
      simp [getLast?_cons, getLast?_append, getLast?_renderMoreElements]
  | obj ms =>
    rw [render]
    cases ms with
    | nil => rw [renderMembers]; decide
    | cons m ms =>
      rw [renderMembers]
      simp [getLast?_cons, getLast?_append, getLast?_renderMoreMembers]

lemma toBytes_ne_toPrettyLineBytes (j j' : Json) : toBytes j ≠ toPrettyLineBytes j' := by
  intro h
  have htext : render j = prettyLine j' := encodeText_injective h
  apply getLast?_render_ne j
  rw [htext, prettyLine]
  simp

/-! ## Sizes -/

lemma textSize_escapeChar_le (c : Char) : textSize (escapeChar c) ≤ 12 := by
  have hfour := fun d : Char => d.utf8Size_le_four
  have hslash : Char.utf8Size '\x5c' = 1 := rfl
  rcases escapeChar_cases c with ⟨e, -, hc, -⟩ | ⟨-, -, hc⟩ | ⟨hc, -⟩
  · have he := hfour e
    rw [hc]
    simp only [textSize_cons, textSize_nil, hslash]
    omega
  · have hu : Char.utf8Size 'u' = 1 := rfl
    have hzero : Char.utf8Size '0' = 1 := rfl
    have hhigh := hfour (Nat.digitChar (c.toNat / 16))
    have hlow := hfour (Nat.digitChar (c.toNat % 16))
    rw [hc]
    simp only [textSize_cons, textSize_nil, hslash, hu, hzero]
    omega
  · have hself := hfour c
    rw [hc]
    simp only [textSize_cons, textSize_nil]
    omega

lemma textSize_quote_le (s : String) : textSize (quote s) ≤ 12 * s.toList.length + 2 := by
  have hflat : ∀ cs : List Char, textSize (cs.flatMap escapeChar) ≤ 12 * cs.length := by
    intro cs
    induction cs with
    | nil => exact le_rfl
    | cons c cs ih =>
      have hc := textSize_escapeChar_le c
      rw [flatMap_cons, textSize_append, length_cons]
      omega
  have hquote : Char.utf8Size '\x22' = 1 := rfl
  have hs := hflat s.toList
  rw [quote, textSize_cons, textSize_append, textSize_cons, textSize_nil, hquote]
  omega

lemma textSize_newline (depth : Nat) : textSize (newline depth) = 2 * depth + 1 := by
  have hblank : Char.utf8Size ' ' = 1 := rfl
  have hbreak : Char.utf8Size '\n' = 1 := rfl
  rw [newline, textSize_cons, hbreak, textSize, map_replicate, hblank, sum_replicate_nat]
  omega

/-- The length in bytes of the members of an object, each on its line behind a comma. -/
def prettyMembersSize (depth : Nat) (ms : List (String × Json)) : Nat :=
  (ms.map fun m =>
    textSize (quote m.1) + textSize (renderPretty (depth + 1) m.2) + 2 * depth + 6).sum

lemma textSize_prettyMoreMembers (depth : Nat) (ms : List (String × Json)) :
    textSize (prettyMoreMembers depth ms) = prettyMembersSize depth ms + 2 * depth + 2 := by
  induction ms with
  | nil =>
    have hclose : Char.utf8Size '\x7d' = 1 := rfl
    rw [prettyMoreMembers, textSize_append, textSize_newline, textSize_cons, textSize_nil, hclose]
    simp only [prettyMembersSize, map_nil, sum_nil]
    omega
  | cons m ms ih =>
    obtain ⟨k, v⟩ := m
    have hcomma : Char.utf8Size ',' = 1 := rfl
    have hcolon : Char.utf8Size ':' = 1 := rfl
    have hblank : Char.utf8Size ' ' = 1 := rfl
    rw [prettyMoreMembers]
    simp only [textSize_cons, textSize_append, textSize_newline, ih, hcomma, hcolon, hblank,
      prettyMembersSize, map_cons, sum_cons]
    omega

lemma prettyMembersSize_le (depth bound : Nat) (ms : List (String × Json))
    (h : ∀ m ∈ ms, textSize (quote m.1) + textSize (renderPretty (depth + 1) m.2) ≤ bound) :
    prettyMembersSize depth ms ≤ ms.length * (bound + 2 * depth + 6) := by
  induction ms with
  | nil => simp [prettyMembersSize]
  | cons m ms ih =>
    rw [forall_mem_cons] at h
    have hrest := ih h.2
    rw [length_cons, Nat.succ_mul]
    unfold prettyMembersSize at hrest ⊢
    rw [map_cons, sum_cons]
    omega

/-- An object takes its members, a brace on a line of its own, and no leading comma. -/
lemma textSize_renderPretty_obj_le (depth : Nat) (ms : List (String × Json)) :
    textSize (renderPretty depth (.obj ms)) ≤ prettyMembersSize depth ms + 2 * depth + 2 := by
  have hbrace : Char.utf8Size '\x7b' = 1 := rfl
  have hclose : Char.utf8Size '\x7d' = 1 := rfl
  cases ms with
  | nil =>
    rw [renderPretty, prettyMembers]
    simp only [textSize_cons, textSize_nil, hbrace, hclose]
    omega
  | cons m ms =>
    obtain ⟨k, v⟩ := m
    have hcolon : Char.utf8Size ':' = 1 := rfl
    have hblank : Char.utf8Size ' ' = 1 := rfl
    rw [renderPretty, prettyMembers]
    simp only [textSize_cons, textSize_append, textSize_newline, textSize_prettyMoreMembers, hbrace,
      hcolon, hblank, prettyMembersSize, map_cons, sum_cons]
    omega

lemma size_toPrettyLineBytes (j : Json) :
    (toPrettyLineBytes j).size = textSize (renderPretty 0 j) + 1 := by
  have hbreak : Char.utf8Size '\n' = 1 := rfl
  rw [toPrettyLineBytes, size_encodeText, prettyLine, textSize_append, textSize_cons, textSize_nil,
    hbreak]

/-! ## A bound by the lengths of the strings -/

mutual

/-- A bound of the length in bytes of a document, indented or not. -/
def sizeBound (depth : Nat) : Json → Nat
  | .null => 4
  | .bool _ => 5
  | .num n => textSize (renderInt n)
  | .str s => 12 * s.toList.length + 2
  | .arr xs => elementsBound depth xs + 2 * depth + 3
  | .obj ms => membersBound depth ms + 2 * depth + 3

def elementsBound (depth : Nat) : List Json → Nat
  | [] => 0
  | x :: xs => sizeBound (depth + 1) x + 2 * depth + 4 + elementsBound depth xs

def membersBound (depth : Nat) : List (String × Json) → Nat
  | [] => 0
  | (k, v) :: ms =>
    12 * k.toList.length + sizeBound (depth + 1) v + 2 * depth + 8 + membersBound depth ms

end

section

variable (depth : Nat)

lemma sizeBound_bool (b : Bool) : sizeBound depth (.bool b) = 5 := rfl

lemma sizeBound_num (n : Int) : sizeBound depth (.num n) = textSize (renderInt n) := rfl

lemma sizeBound_str (s : String) : sizeBound depth (.str s) = 12 * s.toList.length + 2 := rfl

lemma sizeBound_arr (xs : List Json) :
    sizeBound depth (.arr xs) = elementsBound depth xs + 2 * depth + 3 := rfl

lemma sizeBound_obj (ms : List (String × Json)) :
    sizeBound depth (.obj ms) = membersBound depth ms + 2 * depth + 3 := rfl

lemma elementsBound_nil : elementsBound depth [] = 0 := rfl

lemma elementsBound_cons (x : Json) (xs : List Json) : elementsBound depth (x :: xs) =
    sizeBound (depth + 1) x + 2 * depth + 4 + elementsBound depth xs := rfl

lemma membersBound_nil : membersBound depth [] = 0 := rfl

lemma membersBound_cons (k : String) (v : Json) (ms : List (String × Json)) :
    membersBound depth ((k, v) :: ms) =
      12 * k.toList.length + sizeBound (depth + 1) v + 2 * depth + 8 + membersBound depth ms := rfl

end

lemma utf8Size_marks : Char.utf8Size ',' = 1 ∧ Char.utf8Size ':' = 1 ∧ Char.utf8Size ' ' = 1 ∧
    Char.utf8Size '[' = 1 ∧ Char.utf8Size ']' = 1 ∧ Char.utf8Size '\x7b' = 1 ∧
    Char.utf8Size '\x7d' = 1 :=
  ⟨rfl, rfl, rfl, rfl, rfl, rfl, rfl⟩

mutual

lemma textSize_renderPretty_le : ∀ (j : Json) (d : Nat),
    textSize (renderPretty d j) ≤ sizeBound d j
  | .null, d => by
    rw [renderPretty, sizeBound]
    decide
  | .bool true, d => by
    rw [renderPretty, sizeBound]
    decide
  | .bool false, d => by
    rw [renderPretty, sizeBound]
    decide
  | .num n, d => by rw [renderPretty, sizeBound]
  | .str s, d => by
    rw [renderPretty, sizeBound]
    exact textSize_quote_le s
  | .arr xs, d => by
    have hmarks := utf8Size_marks
    have hrest := textSize_prettyElements_le xs d
    rw [renderPretty, sizeBound, textSize_cons]
    omega
  | .obj ms, d => by
    have hmarks := utf8Size_marks
    have hrest := textSize_prettyMembers_le ms d
    rw [renderPretty, sizeBound, textSize_cons]
    omega

lemma textSize_prettyElements_le : ∀ (xs : List Json) (d : Nat),
    textSize (prettyElements d xs) ≤ elementsBound d xs + 2 * d + 2
  | [], d => by
    have hmarks := utf8Size_marks
    rw [prettyElements, textSize_cons, textSize_nil]
    omega
  | x :: xs, d => by
    have hone := textSize_renderPretty_le x (d + 1)
    have hrest := textSize_prettyMoreElements_le xs d
    rw [prettyElements, elementsBound, textSize_append, textSize_append, textSize_newline]
    omega

lemma textSize_prettyMoreElements_le : ∀ (xs : List Json) (d : Nat),
    textSize (prettyMoreElements d xs) ≤ elementsBound d xs + 2 * d + 2
  | [], d => by
    have hmarks := utf8Size_marks
    rw [prettyMoreElements, textSize_append, textSize_newline, textSize_cons, textSize_nil]
    omega
  | x :: xs, d => by
    have hmarks := utf8Size_marks
    have hone := textSize_renderPretty_le x (d + 1)
    have hrest := textSize_prettyMoreElements_le xs d
    rw [prettyMoreElements, elementsBound, textSize_cons, textSize_append, textSize_append,
      textSize_newline]
    omega

lemma textSize_prettyMembers_le : ∀ (ms : List (String × Json)) (d : Nat),
    textSize (prettyMembers d ms) ≤ membersBound d ms + 2 * d + 2
  | [], d => by
    have hmarks := utf8Size_marks
    rw [prettyMembers, textSize_cons, textSize_nil]
    omega
  | (k, v) :: ms, d => by
    have hmarks := utf8Size_marks
    have hkey := textSize_quote_le k
    have hone := textSize_renderPretty_le v (d + 1)
    have hrest := textSize_prettyMoreMembers_le ms d
    rw [prettyMembers, membersBound, textSize_append, textSize_append, textSize_newline,
      textSize_cons, textSize_cons, textSize_append]
    omega

lemma textSize_prettyMoreMembers_le : ∀ (ms : List (String × Json)) (d : Nat),
    textSize (prettyMoreMembers d ms) ≤ membersBound d ms + 2 * d + 2
  | [], d => by
    have hmarks := utf8Size_marks
    rw [prettyMoreMembers, textSize_append, textSize_newline, textSize_cons, textSize_nil]
    omega
  | (k, v) :: ms, d => by
    have hmarks := utf8Size_marks
    have hkey := textSize_quote_le k
    have hone := textSize_renderPretty_le v (d + 1)
    have hrest := textSize_prettyMoreMembers_le ms d
    rw [prettyMoreMembers, membersBound, textSize_cons, textSize_append, textSize_append,
      textSize_newline, textSize_cons, textSize_cons, textSize_append]
    omega

end

mutual

lemma textSize_render_le : ∀ (j : Json) (d : Nat), textSize (render j) ≤ sizeBound d j
  | .null, d => by
    rw [render, sizeBound]
    decide
  | .bool true, d => by
    rw [render, sizeBound]
    decide
  | .bool false, d => by
    rw [render, sizeBound]
    decide
  | .num n, d => by rw [render, sizeBound]
  | .str s, d => by
    rw [render, sizeBound]
    exact textSize_quote_le s
  | .arr xs, d => by
    have hmarks := utf8Size_marks
    have hrest := textSize_renderElements_le xs d
    rw [render, sizeBound, textSize_cons]
    omega
  | .obj ms, d => by
    have hmarks := utf8Size_marks
    have hrest := textSize_renderMembers_le ms d
    rw [render, sizeBound, textSize_cons]
    omega

lemma textSize_renderElements_le : ∀ (xs : List Json) (d : Nat),
    textSize (renderElements xs) ≤ elementsBound d xs + 1
  | [], d => by
    have hmarks := utf8Size_marks
    rw [renderElements, textSize_cons, textSize_nil]
    omega
  | x :: xs, d => by
    have hone := textSize_render_le x (d + 1)
    have hrest := textSize_renderMoreElements_le xs d
    rw [renderElements, elementsBound, textSize_append]
    omega

lemma textSize_renderMoreElements_le : ∀ (xs : List Json) (d : Nat),
    textSize (renderMoreElements xs) ≤ elementsBound d xs + 1
  | [], d => by
    have hmarks := utf8Size_marks
    rw [renderMoreElements, textSize_cons, textSize_nil]
    omega
  | x :: xs, d => by
    have hmarks := utf8Size_marks
    have hone := textSize_render_le x (d + 1)
    have hrest := textSize_renderMoreElements_le xs d
    rw [renderMoreElements, elementsBound, textSize_cons, textSize_append]
    omega

lemma textSize_renderMembers_le : ∀ (ms : List (String × Json)) (d : Nat),
    textSize (renderMembers ms) ≤ membersBound d ms + 1
  | [], d => by
    have hmarks := utf8Size_marks
    rw [renderMembers, textSize_cons, textSize_nil]
    omega
  | (k, v) :: ms, d => by
    have hmarks := utf8Size_marks
    have hkey := textSize_quote_le k
    have hone := textSize_render_le v (d + 1)
    have hrest := textSize_renderMoreMembers_le ms d
    rw [renderMembers, membersBound, textSize_append, textSize_cons, textSize_append]
    omega

lemma textSize_renderMoreMembers_le : ∀ (ms : List (String × Json)) (d : Nat),
    textSize (renderMoreMembers ms) ≤ membersBound d ms + 1
  | [], d => by
    have hmarks := utf8Size_marks
    rw [renderMoreMembers, textSize_cons, textSize_nil]
    omega
  | (k, v) :: ms, d => by
    have hmarks := utf8Size_marks
    have hkey := textSize_quote_le k
    have hone := textSize_render_le v (d + 1)
    have hrest := textSize_renderMoreMembers_le ms d
    rw [renderMoreMembers, membersBound, textSize_cons, textSize_append, textSize_cons,
      textSize_append]
    omega

end

lemma size_toBytes_le (j : Json) : (toBytes j).size ≤ sizeBound 0 j := by
  rw [size_toBytes, byteSize]
  exact textSize_render_le j 0

lemma size_toPrettyLineBytes_le (j : Json) : (toPrettyLineBytes j).size ≤ sizeBound 0 j + 1 := by
  have hle := textSize_renderPretty_le j 0
  rw [size_toPrettyLineBytes]
  omega

end Tidex.Lib.Json
