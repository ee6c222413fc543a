/-
  Lib.JsonWriteText — values with fractions, rendered as a kernel can.
-/
import Tidex.Lib.JsonText
import Tidex.Lib.JsonWrite

namespace Tidex.Lib.JsonValue

open Json

variable [FractionText]

mutual

def renderWith (text : String → List Char) : JsonValue → List Char
  | .null => ['n', 'u', 'l', 'l']
  | .bool true => ['t', 'r', 'u', 'e']
  | .bool false => ['f', 'a', 'l', 's', 'e']
  | .number n => renderNumber n
  | .string s => quoteWith text s
  | .array xs => '[' :: renderElementsWith text xs
  | .object ms => '\x7b' :: renderMembersWith text ms

def renderElementsWith (text : String → List Char) : List JsonValue → List Char
  | [] => [']']
  | x :: xs => renderWith text x ++ renderMoreElementsWith text xs

def renderMoreElementsWith (text : String → List Char) : List JsonValue → List Char
  | [] => [']']
  | x :: xs => ',' :: (renderWith text x ++ renderMoreElementsWith text xs)

def renderMembersWith (text : String → List Char) : List (String × JsonValue) → List Char
  | [] => ['\x7d']
  | (k, v) :: ms =>
    quoteWith text k ++ ':' :: (renderWith text v ++ renderMoreMembersWith text ms)

def renderMoreMembersWith (text : String → List Char) : List (String × JsonValue) → List Char
  | [] => ['\x7d']
  | (k, v) :: ms =>
    ',' :: (quoteWith text k ++ ':' :: (renderWith text v ++ renderMoreMembersWith text ms))

end

mutual

lemma renderWith_toList : ∀ v : JsonValue, renderWith String.toList v = render v
  | .null => by rw [renderWith, render]
  | .bool true => by rw [renderWith, render]
  | .bool false => by rw [renderWith, render]
  | .number n => by rw [renderWith, render]
  | .string s => by rw [renderWith, render, quoteWith, quote]
  | .array xs => by rw [renderWith, render, renderElementsWith_toList xs]
  | .object ms => by rw [renderWith, render, renderMembersWith_toList ms]

lemma renderElementsWith_toList :
    ∀ xs : List JsonValue, renderElementsWith String.toList xs = renderElements xs
  | [] => by rw [renderElementsWith, renderElements]
  | x :: xs => by
    rw [renderElementsWith, renderElements, renderWith_toList x, renderMoreElementsWith_toList xs]

lemma renderMoreElementsWith_toList :
    ∀ xs : List JsonValue, renderMoreElementsWith String.toList xs = renderMoreElements xs
  | [] => by rw [renderMoreElementsWith, renderMoreElements]
  | x :: xs => by
    rw [renderMoreElementsWith, renderMoreElements, renderWith_toList x,
      renderMoreElementsWith_toList xs]

lemma renderMembersWith_toList :
    ∀ ms : List (String × JsonValue), renderMembersWith String.toList ms = renderMembers ms
  | [] => by rw [renderMembersWith, renderMembers]
  | (k, v) :: ms => by
    rw [renderMembersWith, renderMembers, renderWith_toList v, renderMoreMembersWith_toList ms,
      quoteWith, quote]

lemma renderMoreMembersWith_toList :
    ∀ ms : List (String × JsonValue), renderMoreMembersWith String.toList ms = renderMoreMembers ms
  | [] => by rw [renderMoreMembersWith, renderMoreMembers]
  | (k, v) :: ms => by
    rw [renderMoreMembersWith, renderMoreMembers, renderWith_toList v,
      renderMoreMembersWith_toList ms, quoteWith, quote]

end

lemma quickText_render (v : JsonValue) : renderWith quickText v = render v := by
  rw [quickText_eq, renderWith_toList]

end Tidex.Lib.JsonValue
