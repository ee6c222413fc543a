/-
  Lib.JsonText — rendering that a kernel can evaluate.
-/
import Tidex.Lib.Json

namespace Tidex.Lib

open List String

namespace Json

/-! ## Rendering with another reading of strings -/

/-- A string literal, its characters read in a given way. -/
def quoteWith (text : String → List Char) (s : String) : List Char :=
  '\x22' :: ((text s).flatMap escapeChar ++ ['\x22'])

mutual

def renderWith (text : String → List Char) : Json → List Char
  | .null => ['n', 'u', 'l', 'l']
  | .bool true => ['t', 'r', 'u', 'e']
  | .bool false => ['f', 'a', 'l', 's', 'e']
  | .num n => renderInt n
  | .str s => quoteWith text s
  | .arr xs => '[' :: renderElementsWith text xs
  | .obj ms => '\x7b' :: renderMembersWith text ms

def renderElementsWith (text : String → List Char) : List Json → List Char
  | [] => [']']
  | x :: xs => renderWith text x ++ renderMoreElementsWith text xs

def renderMoreElementsWith (text : String → List Char) : List Json → List Char
  | [] => [']']
  | x :: xs => ',' :: (renderWith text x ++ renderMoreElementsWith text xs)

def renderMembersWith (text : String → List Char) : List (String × Json) → List Char
  | [] => ['\x7d']
  | (k, v) :: ms => quoteWith text k ++ ':' :: (renderWith text v ++ renderMoreMembersWith text ms)

def renderMoreMembersWith (text : String → List Char) : List (String × Json) → List Char
  | [] => ['\x7d']
  | (k, v) :: ms =>
    ',' :: (quoteWith text k ++ ':' :: (renderWith text v ++ renderMoreMembersWith text ms))

end

mutual

lemma renderWith_toList : ∀ j : Json, renderWith toList j = render j
  | .null => by rw [renderWith, render]
  | .bool true => by rw [renderWith, render]
  | .bool false => by rw [renderWith, render]
  | .num n => by rw [renderWith, render]
  | .str s => by rw [renderWith, render, quoteWith, quote]
  | .arr xs => by rw [renderWith, render, renderElementsWith_toList xs]
  | .obj ms => by rw [renderWith, render, renderMembersWith_toList ms]

lemma renderElementsWith_toList :
    ∀ xs : List Json, renderElementsWith toList xs = renderElements xs
  | [] => by rw [renderElementsWith, renderElements]
  | x :: xs => by
    rw [renderElementsWith, renderElements, renderWith_toList x, renderMoreElementsWith_toList xs]

lemma renderMoreElementsWith_toList :
    ∀ xs : List Json, renderMoreElementsWith toList xs = renderMoreElements xs
  | [] => by rw [renderMoreElementsWith, renderMoreElements]
  | x :: xs => by
    rw [renderMoreElementsWith, renderMoreElements, renderWith_toList x,
      renderMoreElementsWith_toList xs]

lemma renderMembersWith_toList :
    ∀ ms : List (String × Json), renderMembersWith toList ms = renderMembers ms
  | [] => by rw [renderMembersWith, renderMembers]
  | (k, v) :: ms => by
    rw [renderMembersWith, renderMembers, renderWith_toList v, renderMoreMembersWith_toList ms,
      quoteWith, quote]

lemma renderMoreMembersWith_toList :
    ∀ ms : List (String × Json), renderMoreMembersWith toList ms = renderMoreMembers ms
  | [] => by rw [renderMoreMembersWith, renderMoreMembers]
  | (k, v) :: ms => by
    rw [renderMoreMembersWith, renderMoreMembers, renderWith_toList v,
      renderMoreMembersWith_toList ms, quoteWith, quote]

end

/-! ## Reading ASCII strings off their bytes -/

def isAsciiByte (b : UInt8) : Bool := b.toNat < 128

lemma utf8EncodeChar_ascii {c : Char} (h : ∀ b ∈ utf8EncodeChar c, isAsciiByte b = true) :
    (utf8EncodeChar c).map (fun b => Char.ofNat b.toNat) = [c] := by
  have hval : c.val.toNat = c.toNat := rfl
  unfold utf8EncodeChar at h ⊢
  simp only at h ⊢
  split
  · next hone =>
    simp only [map_cons, map_nil, cons.injEq, and_true]
    rw [UInt8.toNat_ofNat', hval, Nat.mod_eq_of_lt (by omega), Char.ofNat_toNat]
  · next hone =>
    -- a longer encoding starts with a byte that is not ASCII
    exfalso
    rw [if_neg hone] at h
    split at h
    · have hfirst := h _ mem_cons_self
      simp only [isAsciiByte, decide_eq_true_eq, UInt8.toNat_ofNat'] at hfirst
      omega
    · split at h
      · have hfirst := h _ mem_cons_self
        simp only [isAsciiByte, decide_eq_true_eq, UInt8.toNat_ofNat'] at hfirst
        omega
      · have hfirst := h _ mem_cons_self
        simp only [isAsciiByte, decide_eq_true_eq, UInt8.toNat_ofNat'] at hfirst
        omega

lemma map_ofNat_bytes {cs : List Char}
    (h : ∀ b ∈ (encodeText cs).data.toList, isAsciiByte b = true) :
    (encodeText cs).data.toList.map (fun b => Char.ofNat b.toNat) = cs := by
  induction cs with
  | nil => rfl
  | cons c cs ih =>
    have hcons : encodeText (c :: cs) = [c].utf8Encode ++ encodeText cs := utf8Encode_cons
    have hone : [c].utf8Encode.data.toList = utf8EncodeChar c := by
      rw [utf8Encode_singleton]
      simp
    rw [hcons, ByteArray.data_append, Array.toList_append, hone] at h ⊢
    rw [forall_mem_append] at h
    rw [map_append, utf8EncodeChar_ascii h.1, ih h.2]
    rfl

/-- The characters of a string, read off its bytes where these are ASCII. -/
def quickText (s : String) : List Char :=
  if s.toByteArray.data.toList.all isAsciiByte then
    s.toByteArray.data.toList.map fun b => Char.ofNat b.toNat
  else s.toList

lemma quickText_eq : quickText = toList := by
  funext s
  unfold quickText
  split
  · next h =>
    rw [all_eq_true] at h
    have hbytes : s.toByteArray = encodeText s.toList := by
      rw [encodeText, ofList_toList]
    rw [hbytes] at h ⊢
    exact map_ofNat_bytes h
  · rfl

lemma renderWith_quickText (j : Json) : renderWith quickText j = render j := by
  rw [quickText_eq, renderWith_toList]

lemma byteSize_eq (j : Json) : byteSize j = textSize (renderWith quickText j) := by
  rw [renderWith_quickText, byteSize]

end Json

end Tidex.Lib
