/-
  Lib.Binary64 — IEEE 754 double precision on words.

  A double is its 64-bit word.
-/
import Mathlib.Algebra.Order.Ring.Nat

namespace Tidex.Lib

/-- A double, as its word. -/
structure F64 where
  bits : Nat
  lt : bits < 2 ^ 64
  deriving DecidableEq

namespace F64

/-! ## Fields -/

def infBits : Nat := 0x7ff0000000000000

def absBits (x : F64) : Nat := x.bits % 2 ^ 63

def isSignNegative (x : F64) : Bool := 2 ^ 63 ≤ x.bits

def isNaN (x : F64) : Bool := infBits < x.absBits

def isInfinite (x : F64) : Bool := x.absBits == infBits

def isFinite (x : F64) : Bool := x.absBits < infBits

def isZero (x : F64) : Bool := x.absBits == 0

/-- The magnitude of a finite word, in units of 2^-1074. -/
def magnitude (x : F64) : Nat :=
  let field := x.absBits / 2 ^ 52
  if field = 0 then x.absBits else (2 ^ 52 + x.absBits % 2 ^ 52) * 2 ^ (field - 1)

/-- The value of a finite word, in units of 2^-1074. -/
def scaled (x : F64) : Int :=
  if x.isSignNegative then -(x.magnitude : Int) else x.magnitude

/-- The word of a sign and of a magnitude word, which is at most infinity's or a NaN's. -/
def ofParts (negative : Bool) (word : Nat) : F64 where
  bits := (if negative then 2 ^ 63 else 0) + word % 2 ^ 63
  lt := by
    split <;> omega

/-- The quiet NaN that invalid operations return. -/
def nan : F64 := ofParts false 0x7ff8000000000000

def infinity (negative : Bool) : F64 := ofParts negative infBits

def zero (negative : Bool) : F64 := ofParts negative 0

/-! ## Rounding -/

def nearestEven (n d : Nat) : Nat :=
  let q := n / d
  let r := n % d
  if 2 * r < d then q
  else if d < 2 * r then q + 1
  else if q % 2 = 0 then q else q + 1

def roundBits (n d : Nat) : Nat :=
  let k := Nat.log2 (n / d) - 52
  min (k * 2 ^ 52 + nearestEven n (d * 2 ^ k)) infBits

def round (negative : Bool) (n d : Nat) : F64 :=
  ofParts negative (roundBits n d)

def unit : Nat := 2 ^ 1074

/-! ## Arithmetic -/

def ofNat (n : Nat) : F64 := round false (n * unit) 1

def neg (x : F64) : F64 := ofParts (!x.isSignNegative) x.absBits

def abs (x : F64) : F64 := ofParts false x.absBits

def add (x y : F64) : F64 :=
  if x.isNaN || y.isNaN then nan
  else if x.isInfinite then
    if y.isInfinite && x.isSignNegative != y.isSignNegative then nan else x
  else if y.isInfinite then y
  else
    let sum := x.scaled + y.scaled
    -- an exact zero is positive unless both operands are negative
    if sum = 0 then zero (x.isSignNegative && y.isSignNegative)
    else round (sum < 0) sum.natAbs 1

def sub (x y : F64) : F64 := add x y.neg

def mul (x y : F64) : F64 :=
  let negative := x.isSignNegative != y.isSignNegative
  if x.isNaN || y.isNaN then nan
  else if x.isInfinite || y.isInfinite then
    if x.isZero || y.isZero then nan else infinity negative
  else round negative (x.magnitude * y.magnitude) unit

def div (x y : F64) : F64 :=
  let negative := x.isSignNegative != y.isSignNegative
  if x.isNaN || y.isNaN then nan
  else if x.isInfinite then if y.isInfinite then nan else infinity negative
  else if y.isInfinite then zero negative
  else if y.isZero then if x.isZero then nan else infinity negative
  else round negative (x.magnitude * unit) y.magnitude

/-- The square root. -/
def sqrt (x : F64) : F64 :=
  if x.isNaN then nan
  else if x.isZero then x
  else if x.isSignNegative then nan
  else if x.isInfinite then x
  else
    let n := x.magnitude * unit
    let r := Nat.sqrt n
    round false (2 * r + if r * r = n then 0 else 1) 2

/-! ## Comparison -/

/-- The position of a number in the numerical order, both zeros at one place. -/
def key (x : F64) : Int :=
  if x.isSignNegative then -(x.absBits : Int) else x.absBits

def lt? (x y : F64) : Bool := !x.isNaN && !y.isNaN && decide (x.key < y.key)

def le? (x y : F64) : Bool := !x.isNaN && !y.isNaN && decide (x.key ≤ y.key)

def eq? (x y : F64) : Bool := !x.isNaN && !y.isNaN && decide (x.key = y.key)

/-- The position of a word in the total order, where a negative zero is below zero. -/
def totalKey (x : F64) : Int :=
  if x.isSignNegative then -(x.absBits : Int) - 1 else x.absBits

/-- The larger of two numbers, or the one that is a number. -/
def max (x y : F64) : F64 :=
  if x.isNaN then y else if y.isNaN then x else if x.lt? y then y else x

/-- The number moved into an interval. -/
def clamp (x lower upper : F64) : F64 :=
  if x.lt? lower then lower else if upper.lt? x then upper else x

/-- The last of the largest words under the total order. -/
def maxByTotal : List F64 → Option F64
  | [] => none
  | x :: xs => some (xs.foldl (fun best y => if best.totalKey ≤ y.totalKey then y else best) x)

instance : Add F64 := ⟨add⟩
instance : Sub F64 := ⟨sub⟩
instance : Mul F64 := ⟨mul⟩
instance : Div F64 := ⟨div⟩
instance : Neg F64 := ⟨neg⟩

end F64

end Tidex.Lib
