/-
  Lib.JsonValue — documents as a reader returns them.
-/
import Tidex.Lib.Binary64
import Tidex.Lib.Collect
import Tidex.Lib.Json

namespace Tidex.Lib

open List Json

/-! ## Values -/

/-- A number: an integer, or what the reader made of a fraction or an exponent. -/
inductive JsonNumber where
  | int (n : Int)
  | float (x : F64)
  deriving DecidableEq

/-- A document as it was read. -/
inductive JsonValue where
  | null
  | bool (b : Bool)
  | number (n : JsonNumber)
  | string (s : String)
  | array (elements : List JsonValue)
  | object (members : List (String × JsonValue))

/-- Members as a map, where a later member replaces an earlier one of its name. -/
def ofMembers {V : Type} (members : List (String × V)) : BTreeMap String V :=
  collect Prod.fst Prod.snd members

namespace JsonValue

/-- An integer that fits an unsigned machine word. -/
def asU64 : JsonValue → Option Nat
  | number (.int (.ofNat n)) => if n < 2 ^ 64 then some n else none
  | _ => none

def asStr : JsonValue → Option String
  | string s => some s
  | _ => none

def asArray : JsonValue → Option (List JsonValue)
  | array elements => some elements
  | _ => none

/-- The members of an object, in the order of the text. -/
def asMembers : JsonValue → Option (List (String × JsonValue))
  | object members => some members
  | _ => none

/-- An object whose members are taken by name. -/
def asObject : JsonValue → Option (BTreeMap String JsonValue)
  | object members => some (ofMembers members)
  | _ => none

end JsonValue

mutual

/-- A written document, as it is read. -/
def Json.toValue : Json → JsonValue
  | .null => .null
  | .bool b => .bool b
  | .num n => .number (.int n)
  | .str s => .string s
  | .arr xs => .array (toValues xs)
  | .obj ms => .object (toMembers ms)

def Json.toValues : List Json → List JsonValue
  | [] => []
  | x :: xs => x.toValue :: toValues xs

def Json.toMembers : List (String × Json) → List (String × JsonValue)
  | [] => []
  | (key, x) :: ms => (key, x.toValue) :: toMembers ms

end

lemma Json.toValues_eq (xs : List Json) : toValues xs = xs.map toValue := by
  induction xs with
  | nil => rfl
  | cons x xs ih => rw [toValues, ih, map_cons]

lemma Json.toMembers_eq (ms : List (String × Json)) :
    toMembers ms = ms.map fun m => (m.1, m.2.toValue) := by
  induction ms with
  | nil => rfl
  | cons m ms ih => rw [toMembers, ih, map_cons]

lemma asObject_toValue (m : BTreeMap String Json) :
    ∃ object, (obj m.toList).toValue.asObject = some object ∧
      object.toList = m.toList.map fun member => (member.1, member.2.toValue) := by
  refine ⟨ofMembers (toMembers m.toList), rfl, ?_⟩
  have hsorted : (toMembers m.toList).Pairwise fun a b => compare a.1 b.1 = .lt := by
    rw [toMembers_eq, pairwise_map]
    exact Std.ExtTreeMap.ordered_keys_toList
  unfold ofMembers
  rw [toList_collect hsorted, toMembers_eq, map_map]
  rfl

/-! ## Readers -/

class JsonReader where
  read : ByteArray → Option JsonValue

namespace Json

def spaces (n : Nat) : ByteArray := encodeText (List.replicate n ' ')

lemma encodeText_append (cs ds : List Char) :
    encodeText (cs ++ ds) = encodeText cs ++ encodeText ds := by
  unfold encodeText
  rw [String.ofList_append, String.toByteArray_append]

lemma size_toBytes_pos (j : Json) : 0 < j.toBytes.size := by
  obtain ⟨c, t, htext, -⟩ := render_head j
  rw [size_toBytes, byteSize, htext, textSize_cons]
  have := c.utf8Size_pos
  omega

lemma size_spaces (n : Nat) : (spaces n).size = n := by
  unfold spaces
  rw [size_encodeText]
  induction n with
  | zero => rfl
  | succ n ih =>
    rw [replicate_succ, textSize_cons, ih]
    have hone : ' '.utf8Size = 1 := by decide
    omega

lemma padded_injective {j j' : Json} {m n : Nat}
    (h : j.toBytes ++ spaces m = j'.toBytes ++ spaces n) : j = j' := by
  have hdelimited : ∀ k, Delimited (replicate k ' ') := by
    intro k c t hcons
    cases k with
    | zero => cases hcons
    | succ k =>
      rw [replicate_succ] at hcons
      obtain ⟨rfl, -⟩ := cons.inj hcons
      decide
  unfold toBytes spaces at h
  have htext : render j ++ replicate m ' ' = render j' ++ replicate n ' ' := by
    apply encodeText_injective
    rw [encodeText_append, encodeText_append]
    exact h
  exact (render_append_inj j j' _ _ (hdelimited m) (hdelimited n) htext).1

end Json

open Classical in
/-- The document whose compact text is given, with blanks after it, if there is one. -/
noncomputable def readExactly (bytes : ByteArray) : Option JsonValue :=
  if h : ∃ j n, bytes = toBytes j ++ spaces n then some h.choose.toValue else none

@[reducible] noncomputable def JsonReader.exact : JsonReader where
  read := readExactly

lemma read_padded (j : Json) (n : Nat) :
    readExactly (j.toBytes ++ spaces n) = some j.toValue := by
  have h : ∃ j' n', j.toBytes ++ spaces n = toBytes j' ++ spaces n' := ⟨j, n, rfl⟩
  obtain ⟨m, hm⟩ := h.choose_spec
  have hsame : h.choose = j := (padded_injective hm).symm
  rw [readExactly, dif_pos h]
  exact congrArg (fun document => some document.toValue) hsame

end Tidex.Lib
