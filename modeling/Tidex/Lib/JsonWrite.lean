/-
  Lib.JsonWrite — documents as they were read, compared and written back.
-/
import Tidex.Lib.JsonValue

namespace Tidex.Lib

open List Json

class FractionText where
  text : F64 → List Char

namespace JsonValue

/-! ## Comparison -/

mutual

def same : JsonValue → JsonValue → Bool
  | .null, .null => true
  | .bool a, .bool b => a == b
  | .number m, .number n => decide (m = n)
  | .string s, .string t => s == t
  | .array xs, .array ys => sameElements xs ys
  | .object ms, .object ns => sameMembers ms ns
  | _, _ => false

def sameElements : List JsonValue → List JsonValue → Bool
  | [], [] => true
  | x :: xs, y :: ys => same x y && sameElements xs ys
  | _, _ => false

def sameMembers : List (String × JsonValue) → List (String × JsonValue) → Bool
  | [], [] => true
  | (k, x) :: ms, (l, y) :: ns => k == l && (same x y && sameMembers ms ns)
  | _, _ => false

end

mutual

lemma eq_of_same : ∀ {v w : JsonValue}, same v w = true → v = w
  | .null, w, h => by
    cases w <;> simp [same] at h ⊢
  | .bool a, w, h => by
    cases w <;> simp [same] at h ⊢
    exact h
  | .number m, w, h => by
    cases w <;> simp [same] at h ⊢
    exact h
  | .string s, w, h => by
    cases w <;> simp [same] at h ⊢
    exact h
  | .array xs, w, h => by
    cases w <;> simp only [same, Bool.false_eq_true] at h
    rw [eq_of_sameElements h]
  | .object ms, w, h => by
    cases w <;> simp only [same, Bool.false_eq_true] at h
    rw [eq_of_sameMembers h]

lemma eq_of_sameElements : ∀ {xs ys : List JsonValue}, sameElements xs ys = true → xs = ys
  | [], ys, h => by
    cases ys with
    | nil => rfl
    | cons y ys => simp [sameElements] at h
  | x :: xs, ys, h => by
    cases ys with
    | nil => simp [sameElements] at h
    | cons y ys =>
      rw [sameElements, Bool.and_eq_true] at h
      rw [eq_of_same h.1, eq_of_sameElements h.2]

lemma eq_of_sameMembers :
    ∀ {ms ns : List (String × JsonValue)}, sameMembers ms ns = true → ms = ns
  | [], ns, h => by
    cases ns with
    | nil => rfl
    | cons n ns => simp [sameMembers] at h
  | (k, x) :: ms, ns, h => by
    cases ns with
    | nil => simp [sameMembers] at h
    | cons n ns =>
      obtain ⟨l, y⟩ := n
      rw [sameMembers, Bool.and_eq_true, Bool.and_eq_true, beq_iff_eq] at h
      rw [h.1, eq_of_same h.2.1, eq_of_sameMembers h.2.2]

end

mutual

@[simp] lemma same_self : ∀ v : JsonValue, same v v = true
  | .null => by rw [same]
  | .bool b => by rw [same, beq_self_eq_true]
  | .number n => by rw [same, decide_eq_true rfl]
  | .string s => by rw [same, beq_self_eq_true]
  | .array xs => by rw [same, sameElements_self xs]
  | .object ms => by rw [same, sameMembers_self ms]

lemma sameElements_self : ∀ xs : List JsonValue, sameElements xs xs = true
  | [] => by rw [sameElements]
  | x :: xs => by rw [sameElements, same_self x, sameElements_self xs, Bool.and_self]

lemma sameMembers_self : ∀ ms : List (String × JsonValue), sameMembers ms ms = true
  | [] => by rw [sameMembers]
  | (k, x) :: ms => by
    rw [sameMembers, same_self x, sameMembers_self ms, beq_self_eq_true, Bool.and_self,
      Bool.and_self]

end

lemma same_iff {v w : JsonValue} : same v w = true ↔ v = w := by
  constructor
  · exact eq_of_same
  · intro h
    rw [h]
    exact same_self w

instance : DecidableEq JsonValue := fun _ _ => decidable_of_iff _ same_iff

/-! ## Text -/

section

variable [FractionText]

def renderNumber : JsonNumber → List Char
  | .int n => renderInt n
  | .float x => FractionText.text x

mutual

def render : JsonValue → List Char
  | .null => ['n', 'u', 'l', 'l']
  | .bool true => ['t', 'r', 'u', 'e']
  | .bool false => ['f', 'a', 'l', 's', 'e']
  | .number n => renderNumber n
  | .string s => quote s
  | .array xs => '[' :: renderElements xs
  | .object ms => '\x7b' :: renderMembers ms

def renderElements : List JsonValue → List Char
  | [] => [']']
  | x :: xs => render x ++ renderMoreElements xs

def renderMoreElements : List JsonValue → List Char
  | [] => [']']
  | x :: xs => ',' :: (render x ++ renderMoreElements xs)

def renderMembers : List (String × JsonValue) → List Char
  | [] => ['\x7d']
  | (k, v) :: ms => quote k ++ ':' :: (render v ++ renderMoreMembers ms)

def renderMoreMembers : List (String × JsonValue) → List Char
  | [] => ['\x7d']
  | (k, v) :: ms => ',' :: (quote k ++ ':' :: (render v ++ renderMoreMembers ms))

end

def toBytes (v : JsonValue) : ByteArray := encodeText v.render

mutual

/-- A document without fractions is written as it was. -/
lemma render_toValue : ∀ j : Json, j.toValue.render = j.render
  | .null => by rw [Json.toValue, render, Json.render]
  | .bool true => by rw [Json.toValue, render, Json.render]
  | .bool false => by rw [Json.toValue, render, Json.render]
  | .num n => by rw [Json.toValue, render, Json.render, renderNumber]
  | .str s => by rw [Json.toValue, render, Json.render]
  | .arr xs => by rw [Json.toValue, render, Json.render, renderElements_toValues xs]
  | .obj ms => by rw [Json.toValue, render, Json.render, renderMembers_toMembers ms]

lemma renderElements_toValues :
    ∀ xs : List Json, renderElements (Json.toValues xs) = Json.renderElements xs
  | [] => by rw [Json.toValues, renderElements, Json.renderElements]
  | x :: xs => by
    rw [Json.toValues, renderElements, Json.renderElements, render_toValue x,
      renderMoreElements_toValues xs]

lemma renderMoreElements_toValues :
    ∀ xs : List Json, renderMoreElements (Json.toValues xs) = Json.renderMoreElements xs
  | [] => by rw [Json.toValues, renderMoreElements, Json.renderMoreElements]
  | x :: xs => by
    rw [Json.toValues, renderMoreElements, Json.renderMoreElements, render_toValue x,
      renderMoreElements_toValues xs]

lemma renderMembers_toMembers :
    ∀ ms : List (String × Json), renderMembers (Json.toMembers ms) = Json.renderMembers ms
  | [] => by rw [Json.toMembers, renderMembers, Json.renderMembers]
  | (k, v) :: ms => by
    rw [Json.toMembers, renderMembers, Json.renderMembers, render_toValue v,
      renderMoreMembers_toMembers ms]

lemma renderMoreMembers_toMembers :
    ∀ ms : List (String × Json), renderMoreMembers (Json.toMembers ms) = Json.renderMoreMembers ms
  | [] => by rw [Json.toMembers, renderMoreMembers, Json.renderMoreMembers]
  | (k, v) :: ms => by
    rw [Json.toMembers, renderMoreMembers, Json.renderMoreMembers, render_toValue v,
      renderMoreMembers_toMembers ms]

end

end

/-! ## Canonical values -/

mutual

/-- The value with the members of every object sorted by name, the last of a name kept. -/
def canonical : JsonValue → JsonValue
  | .null => .null
  | .bool b => .bool b
  | .number n => .number n
  | .string s => .string s
  | .array xs => .array (canonicalElements xs)
  | .object ms => .object (ofMembers (canonicalMembers ms)).toList

def canonicalElements : List JsonValue → List JsonValue
  | [] => []
  | x :: xs => canonical x :: canonicalElements xs

def canonicalMembers : List (String × JsonValue) → List (String × JsonValue)
  | [] => []
  | (k, v) :: ms => (k, canonical v) :: canonicalMembers ms

end

lemma canonicalMembers_eq (ms : List (String × JsonValue)) :
    canonicalMembers ms = ms.map fun m => (m.1, m.2.canonical) := by
  induction ms with
  | nil => rfl
  | cons m ms ih => rw [canonicalMembers, ih, map_cons]

lemma canonical_object {ms : List (String × JsonValue)}
    (hsorted : ms.Pairwise fun a b => compare a.1 b.1 = .lt)
    (hmembers : ∀ m ∈ ms, m.2.canonical = m.2) : (object ms).canonical = object ms := by
  have hmap : canonicalMembers ms = ms := by
    rw [canonicalMembers_eq]
    conv_rhs => rw [← map_id ms]
    apply map_congr_left
    intro m hm
    rw [hmembers m hm]
    rfl
  rw [canonical, hmap]
  unfold ofMembers
  rw [toList_collect hsorted]
  exact congrArg object (map_id ms)

end JsonValue

end Tidex.Lib
