/-
  Foundation.Serialize — how values are written as JSON.

  `Serialize` gives each type the document its derived serializer writes and
  says that different values have different documents, so `toVec` (the bytes
  that are hashed and stored) is injective for every serializable type.
-/
import Tidex.Lib.Json
import Tidex.Lib.OrdMap

namespace Tidex

open Tidex.Lib Json

/-! ## The class -/

/-- A type whose values are written as JSON, different values differently. -/
class Serialize (α : Type) where
  toJson : α → Json
  toJson_injective : Function.Injective toJson := by
    intro a b h
    cases a <;> cases b <;> simp_all

/-- A serializable type whose values are never written as `null`. -/
class SerializeSome (α : Type) extends Serialize α where
  toJson_ne_null : ∀ a : α, toJson a ≠ .null := by
    intro a h
    cases h

/-- A type whose values can be the keys of a JSON object. -/
class SerializeKey (α : Type) where
  keyText : α → String
  keyText_injective : Function.Injective keyText

export Serialize (toJson)
export SerializeKey (keyText)

variable {α β : Type}

@[simp] lemma toJson_inj [Serialize α] {a b : α} : toJson a = toJson b ↔ a = b :=
  Serialize.toJson_injective.eq_iff

@[simp] lemma keyText_inj [SerializeKey α] {a b : α} : keyText a = keyText b ↔ a = b :=
  SerializeKey.keyText_injective.eq_iff

def toVec [Serialize α] (a : α) : ByteArray :=
  (toJson a).toBytes

lemma toVec_injective [Serialize α] : Function.Injective (toVec (α := α)) :=
  toBytes_injective.comp Serialize.toJson_injective

def tupleToVec (fields : List Json) : ByteArray :=
  (arr fields).toBytes

@[simp] lemma tupleToVec_inj {xs ys : List Json} : tupleToVec xs = tupleToVec ys ↔ xs = ys := by
  unfold tupleToVec
  rw [toBytes_injective.eq_iff, arr.injEq]

/-! ## Primitive values and collections -/

/-- An enumeration written as the name of its variant. -/
@[reducible] def serializeName {α : Type} (name : α → String)
    (hname : Function.Injective name := by
      intro a b h
      cases a <;> cases b <;> first | rfl | exact absurd h (by decide)) : Serialize α where
  toJson a := .str (name a)
  toJson_injective := by
    intro a b h
    exact hname (str.inj h)

instance : SerializeSome Bool where
  toJson b := .bool b
  toJson_injective := by
    intro a b h
    simpa using h

instance : SerializeSome Nat where
  toJson n := .num n
  toJson_injective := by
    intro a b h
    exact Int.ofNat.inj (num.inj h)

instance : SerializeSome Int where
  toJson n := .num n
  toJson_injective := by
    intro a b h
    simpa using h

instance : SerializeSome String where
  toJson s := .str s
  toJson_injective := by
    intro a b h
    simpa using h

instance [SerializeSome α] : Serialize (Option α) where
  toJson
    | none => .null
    | some a => toJson a
  toJson_injective := by
    intro a b h
    cases a with
    | none =>
      cases b with
      | none => rfl
      | some b => exact absurd h.symm (SerializeSome.toJson_ne_null b)
    | some a =>
      cases b with
      | none => exact absurd h (SerializeSome.toJson_ne_null a)
      | some b => rw [toJson_inj.mp h]

instance [Serialize α] : Serialize (List α) where
  toJson xs := .arr (xs.map toJson)
  toJson_injective := by
    intro xs ys h
    rw [arr.injEq] at h
    exact List.map_injective_iff.mpr Serialize.toJson_injective h

section

variable [Ord α] [Std.TransOrd α]

instance [Serialize α] : Serialize (BTreeSet α) where
  toJson s := .arr (s.toList.map toJson)
  toJson_injective := by
    intro s t h
    rw [arr.injEq] at h
    exact Std.ExtTreeSet.toList_inj.mp (List.map_injective_iff.mpr Serialize.toJson_injective h)

instance [SerializeKey α] [Serialize β] : Serialize (BTreeMap α β) where
  toJson m := .obj (m.toList.map fun p => (keyText p.1, toJson p.2))
  toJson_injective := by
    intro m n h
    rw [obj.injEq] at h
    refine Std.ExtTreeMap.toList_inj.mp (List.map_injective_iff.mpr ?_ h)
    rintro ⟨k, v⟩ ⟨l, w⟩ hkv
    simpa using hkv

end

end Tidex
