/-
  Lib.JsonSpace — a reader that skips white space around a document.
-/
import Tidex.Lib.JsonValue

namespace Tidex.Lib

open List Json

/-! ## White space of documents -/

/-- A character that may stand around a document. -/
def isJsonSpace (c : Char) : Bool := c == ' ' || c == '\t' || c == '\n' || c == '\r'

namespace Json

lemma headKind_of_isJsonSpace {c : Char} (h : isJsonSpace c = true) : headKind c = 7 := by
  simp only [isJsonSpace, Bool.or_eq_true, beq_iff_eq] at h
  rcases h with ((h | h) | h) | h <;> subst h <;> decide

lemma kind_lt (j : Json) : kind j < 7 := by
  cases j with
  | bool b => cases b <;> decide
  | null => exact (by decide : 0 < 7)
  | num n => exact (by decide : 3 < 7)
  | str s => exact (by decide : 4 < 7)
  | arr xs => exact (by decide : 5 < 7)
  | obj ms => exact (by decide : 6 < 7)

lemma delimited_of_spaces {ws : List Char} (hws : ∀ c ∈ ws, isJsonSpace c = true) :
    Delimited ws := by
  intro c t h
  subst h
  have hc := hws c mem_cons_self
  simp only [isJsonSpace, Bool.or_eq_true, beq_iff_eq] at hc
  rcases hc with ((h | h) | h) | h <;> subst h <;> decide

/-- Where the white space ends, a document begins. -/
lemma spaces_append_inj {ws vs : List Char} {j : Json} {s t : List Char}
    (hws : ∀ c ∈ ws, isJsonSpace c = true) (hvs : ∀ c ∈ vs, headKind c = 7)
    (h : vs ++ s = ws ++ (render j ++ t)) : ∃ more, ws = vs ++ more := by
  induction vs generalizing ws with
  | nil => exact ⟨ws, rfl⟩
  | cons v vs ih =>
    cases ws with
    | nil =>
      -- the first character announces the document, and announces none
      obtain ⟨c, rest, htext, hkind⟩ := render_head j
      rw [nil_append, htext, cons_append, cons_append] at h
      have hhead := (cons.inj h).1
      have hseven := hvs v mem_cons_self
      rw [hhead, hkind] at hseven
      have hlt := kind_lt j
      omega
    | cons w ws =>
      rw [cons_append, cons_append] at h
      obtain ⟨hhead, htail⟩ := cons.inj h
      obtain ⟨more, hmore⟩ := ih (fun c hc => hws c (mem_cons_of_mem w hc))
        (fun c hc => hvs c (mem_cons_of_mem v hc)) htail
      exact ⟨more, by rw [hhead, hmore, cons_append]⟩

lemma spaced_inj {ws ws' : List Char} {j j' : Json} {s t : List Char}
    (hws : ∀ c ∈ ws, isJsonSpace c = true) (hws' : ∀ c ∈ ws', isJsonSpace c = true)
    (hs : Delimited s) (ht : Delimited t)
    (h : ws ++ (render j ++ s) = ws' ++ (render j' ++ t)) : j = j' ∧ s = t := by
  obtain ⟨more, hmore⟩ := spaces_append_inj hws'
    (fun c hc => headKind_of_isJsonSpace (hws c hc)) h
  obtain ⟨less, hless⟩ := spaces_append_inj hws
    (fun c hc => headKind_of_isJsonSpace (hws' c hc)) h.symm
  have hsame : ws = ws' := by
    have hlength := congrArg length hmore
    have hlength' := congrArg length hless
    rw [length_append] at hlength hlength'
    have hnil : more = [] := length_eq_zero_iff.mp (by omega)
    rw [hmore, hnil, append_nil]
  rw [hsame] at h
  exact render_append_inj j j' s t hs ht (append_cancel_left h)

end Json

/-! ## The reader -/

structure SpacedText (cs : List Char) (j : Json) : Prop where
  spaced : ∃ before after, (∀ c ∈ before, isJsonSpace c = true) ∧
    (∀ c ∈ after, isJsonSpace c = true) ∧ cs = before ++ (j.render ++ after)

lemma SpacedText.unique {cs : List Char} {j j' : Json} (h : SpacedText cs j)
    (h' : SpacedText cs j') : j = j' := by
  obtain ⟨before, after, hbefore, hafter, htext⟩ := h.spaced
  obtain ⟨before', after', hbefore', hafter', htext'⟩ := h'.spaced
  rw [htext] at htext'
  exact (spaced_inj hbefore hbefore' (delimited_of_spaces hafter)
    (delimited_of_spaces hafter') htext').1

open Classical in
/-- The document that is given with white space around it, if there is one. -/
noncomputable def readSpaced (bytes : ByteArray) : Option JsonValue :=
  if h : ∃ j cs, bytes = Json.encodeText cs ∧ SpacedText cs j then some h.choose.toValue else none

/-- The reader of compact documents with white space around them. -/
@[reducible] noncomputable def JsonReader.spaced : JsonReader where
  read := readSpaced

lemma readSpaced_of_text {cs : List Char} {j : Json} (h : SpacedText cs j) :
    readSpaced (encodeText cs) = some j.toValue := by
  have hex : ∃ j' cs', encodeText cs = encodeText cs' ∧ SpacedText cs' j' :=
    ⟨j, cs, rfl, h⟩
  obtain ⟨cs', hbytes, hspaced⟩ := hex.choose_spec
  rw [← encodeText_injective hbytes] at hspaced
  rw [readSpaced, dif_pos hex, hspaced.unique h]

lemma readSpaced_eq_none {cs : List Char} (h : ∀ j, ¬ SpacedText cs j) :
    readSpaced (encodeText cs) = none := by
  rw [readSpaced, dif_neg]
  intro hex
  obtain ⟨j, cs', hbytes, hspaced⟩ := hex
  rw [← encodeText_injective hbytes] at hspaced
  exact h j hspaced

lemma readSpaced_isSome {bytes : ByteArray} {value : JsonValue}
    (h : readSpaced bytes = some value) : ∃ j cs, bytes = encodeText cs ∧ SpacedText cs j := by
  by_contra hnone
  rw [readSpaced, dif_neg hnone] at h
  cases h

/-- A document is read whatever white space surrounds it. -/
lemma readSpaced_around {before after : List Char} (j : Json)
    (hbefore : ∀ c ∈ before, isJsonSpace c = true) (hafter : ∀ c ∈ after, isJsonSpace c = true) :
    readSpaced (encodeText (before ++ (j.render ++ after))) = some j.toValue :=
  readSpaced_of_text ⟨before, after, hbefore, hafter, rfl⟩

/-- An object right after a document is an error. -/
lemma readSpaced_followed {bytes : ByteArray} {value : JsonValue}
    (h : readSpaced bytes = some value) (members : List (String × Json)) :
    readSpaced (bytes ++ (obj members).toBytes) = none := by
  obtain ⟨j, cs, hbytes, hspaced⟩ := readSpaced_isSome h
  obtain ⟨before, after, hbefore, hafter, htext⟩ := hspaced.spaced
  rw [hbytes, toBytes, ← encodeText_append]
  apply readSpaced_eq_none
  intro j' hspaced'
  obtain ⟨before', after', hbefore', hafter', htext'⟩ := hspaced'.spaced
  rw [htext, append_assoc, append_assoc] at htext'
  have hbrace : (obj members).render = '\x7b' :: renderMembers members := by
    rw [render]
  have hdelimited : Delimited (after ++ (obj members).render) := by
    intro c t hcons
    cases hafterCases : after with
    | nil =>
      rw [hafterCases, nil_append, hbrace] at hcons
      rw [← (cons.inj hcons).1]
      decide
    | cons a rest =>
      rw [hafterCases, cons_append] at hcons
      rw [← (cons.inj hcons).1]
      exact delimited_of_spaces hafter a rest hafterCases
  obtain ⟨-, hrest⟩ := spaced_inj hbefore hbefore' hdelimited
    (delimited_of_spaces hafter') htext'
  -- the brace would be white space after the document
  have hmem : '\x7b' ∈ after' := by
    rw [← hrest, hbrace]
    simp
  exact absurd (hafter' _ hmem) (by decide)

/-- A character before a document that is no white space and begins none is an error. -/
lemma readSpaced_foreign {cs rest : List Char} (hkinds : ∀ c ∈ cs, headKind c = 7)
    {c : Char} (hc : c ∈ cs) (hspace : isJsonSpace c = false) :
    readSpaced (encodeText (cs ++ rest)) = none := by
  apply readSpaced_eq_none
  intro j hspaced
  obtain ⟨before, after, hbefore, -, htext⟩ := hspaced.spaced
  obtain ⟨more, hmore⟩ := spaces_append_inj hbefore hkinds htext
  have hmem : c ∈ before := by
    rw [hmore]
    exact mem_append_left more hc
  rw [hbefore c hmem] at hspace
  cases hspace

end Tidex.Lib
