/-
  Foundation.Finite — finite doubles with an exact written form.

  A finite double is kept as its word and written as the word's sixteen
  hexadecimal digits, so that what is hashed determines the value.
-/
import Tidex.Foundation.Authority
import Tidex.Lib.Binary64
import Tidex.Lib.Hex

namespace Tidex

open Tidex.Lib

/-- A double that is neither infinite nor a NaN. -/
structure FiniteF64 where
  get : F64
  finite : get.isFinite = true
  deriving DecidableEq

namespace FiniteF64

def new (value : F64) : BrainResult FiniteF64 :=
  if h : value.isFinite = true then .ok ⟨value, h⟩
  else .error (.numerical "finite_f64_non_finite")

@[simp] lemma new_ok {value : F64} {x : FiniteF64} : new value = .ok x ↔ x.get = value := by
  unfold new
  split
  · next h =>
    constructor
    · intro hx
      cases hx
      rfl
    · intro hx
      subst hx
      rfl
  · next h =>
    constructor
    · intro hx
      cases hx
    · intro hx
      exact absurd (hx ▸ x.finite) h

lemma bits_injective {x y : FiniteF64} (h : x.get.bits = y.get.bits) : x = y := by
  obtain ⟨⟨a, ha⟩, hx⟩ := x
  obtain ⟨⟨b, hb⟩, hy⟩ := y
  cases h
  rfl

instance : SerializeSome FiniteF64 where
  toJson x := .str (String.ofList (hexText 16 x.get.bits))
  toJson_injective := by
    intro x y h
    have htext : hexText 16 x.get.bits = hexText 16 y.get.bits :=
      String.ofList_injective (Json.str.inj h)
    refine bits_injective (hexText_inj ?_ ?_ htext)
    · exact x.get.lt
    · exact y.get.lt

end FiniteF64

end Tidex
