/-
  Foundation.Linalg — vectors and matrices over any arithmetic.

  `Scalar` is what the numerical code asks of its numbers, and `Spectral` what it asks of
  the library that computes eigenvalues.
-/
import Tidex.Foundation.Authority

namespace Tidex

open Tidex.Lib

/-! ## Numbers -/

/-- Numbers with the operations and tests that the numerical code uses. -/
class Scalar (K : Type) extends Zero K, One K, Add K, Sub K, Neg K, Mul K, Div K where
  /-- The number nearest to `m` divided by the `e`-th power of ten. -/
  lit (m e : Nat) : K
  /-- The distance from one to the next larger machine number. -/
  epsilon : K
  abs : K → K
  sqrt : K → K
  ln : K → K
  max : K → K → K
  min : K → K → K
  lt : K → K → Bool
  eq : K → K → Bool
  isFinite : K → Bool

section

variable {K : Type} [Scalar K]

def Scalar.le (a b : K) : Bool := Scalar.lt a b || Scalar.eq a b

/-! ## Vectors -/

def sumFrom (start : K) (values : List K) : K :=
  values.foldl (· + ·) start

def maxAbs (values : List K) : K :=
  values.foldl (fun best value => Scalar.max best (Scalar.abs value)) 0

/-- The Euclidean norm, scaled by the largest entry. -/
def norm (a : List K) : BrainResult K := do
  failIf (a.isEmpty ∨ a.any fun value => !Scalar.isFinite value) (invalid "norm_input_invalid")
  let scale := maxAbs a
  if Scalar.eq scale 0 then return 0
  let scaledSquareSum := sumFrom 0 (a.map fun value => value / scale * (value / scale))
  let value := scale * Scalar.sqrt scaledSquareSum
  failIf (¬Scalar.isFinite value) (.numerical "norm_non_finite_result")
  return value

def normalize (a : List K) : BrainResult (List K) := do
  let n ← norm a
  failIf (Scalar.eq n 0) (.numerical "normalize_zero_norm")
  let normalized := a.map (· / n)
  failIf (normalized.any fun value => !Scalar.isFinite value)
    (.numerical "normalize_non_finite_result")
  return normalized

def compensatedStep (acc : K × K) (value : K) : BrainResult (K × K) := do
  failIf (¬Scalar.isFinite value) (.numerical "compensated_sum_input_nonfinite")
  let (sum, correction) := acc
  let updated := sum + value
  let lost := if Scalar.le (Scalar.abs value) (Scalar.abs sum) then (sum - updated) + value
    else (value - updated) + sum
  return (updated, correction + lost)

def compensatedSum (values : List K) : BrainResult K := do
  let (sum, correction) ← values.foldlM compensatedStep (0, 0)
  let result := sum + correction
  failIf (¬Scalar.isFinite result) (.numerical "compensated_sum_nonfinite")
  return result

def dot (a b : List K) : BrainResult K := do
  failIf (a.length ≠ b.length ∨ (a ++ b).any fun value => !Scalar.isFinite value)
    (invalid "dot_shape_or_value")
  let leftScale := maxAbs a
  let rightScale := maxAbs b
  if Scalar.eq leftScale 0 || Scalar.eq rightScale 0 then return 0
  let normalized ← compensatedSum
    (List.zipWith (fun left right => left / leftScale * (right / rightScale)) a b)
  let value := normalized * leftScale * rightScale
  failIf (¬Scalar.isFinite value) (.numerical "dot_non_finite_result")
  return value

/-! ## Matrices -/

structure DenseMatrix (K : Type) where
  rows : List (List K)
  cols : Nat
  shape : ∀ row ∈ rows, row.length = cols

namespace DenseMatrix

def fromRows (rows : List (List K)) : BrainResult (DenseMatrix K) :=
  match rows with
  | [] => .ok ⟨[], 0, fun _ h => by cases h⟩
  | first :: rest =>
    if h : first.length ≠ 0 ∧ ∀ row ∈ first :: rest,
        row.length = first.length ∧ row.all Scalar.isFinite = true then
      .ok ⟨first :: rest, first.length, fun row hrow => (h.2 row hrow).1⟩
    else .error (invalid "matrix_rows_invalid")

def get (m : DenseMatrix K) (r c : Nat) : K :=
  (m.rows.getD r []).getD c 0

def finite (m : DenseMatrix K) : Bool :=
  m.rows.all fun row => row.all Scalar.isFinite

def data (m : DenseMatrix K) : List K :=
  m.rows.flatten

def validate (m : DenseMatrix K) (label : String) : BrainResult Unit :=
  failIf (¬m.finite) (invalid (label ++ "_shape_or_value"))

def matvec (m : DenseMatrix K) (v : List K) : BrainResult (List K) := do
  m.validate "matvec_matrix"
  failIf (m.cols ≠ v.length ∨ v.any fun value => !Scalar.isFinite value) (invalid "matvec_shape")
  m.rows.mapM fun row => dot row v

end DenseMatrix

def squareMatrix (n : Nat) (entry : Nat → Nat → K) : DenseMatrix K where
  rows := (List.range n).map fun r => (List.range n).map fun c => entry r c
  cols := n
  shape := by
    intro row hrow
    obtain ⟨r, -, rfl⟩ := List.mem_map.mp hrow
    rw [List.length_map, List.length_range]

end

/-! ## Spectra -/

/-- Numbers with the decomposition of a symmetric matrix: its eigenvalues, each with a vector. -/
class Spectral (K : Type) extends Scalar K where
  selfAdjointEigen : DenseMatrix K → Option (List (K × List K))

variable {K : Type} [Spectral K]

/-- The bound below which entries count as equal. -/
def spectralTolerance (m : DenseMatrix K) : K :=
  Scalar.sqrt Scalar.epsilon * Scalar.max (maxAbs m.data) 1 * Scalar.lit m.rows.length 0

/-- Some entry differs from its mirror by more than the bound. -/
def asymmetric (m : DenseMatrix K) : Bool :=
  (List.range m.rows.length).any fun i => (List.range i).any fun j =>
    Scalar.lt (spectralTolerance m) (Scalar.abs (m.get i j - m.get j i))

/-- An eigenvalue and its vector, checked and normalized. -/
def eigenpair (pair : K × List K) : BrainResult (K × List K) := do
  failIf (¬Scalar.isFinite pair.1) (.numerical "faer_eigenvalue_non_finite")
  failIf (pair.2.any fun value => !Scalar.isFinite value) (.numerical "faer_eigenvector_non_finite")
  let vector ← normalize pair.2
  return (pair.1, vector)

/-- The eigenvalues of a symmetric matrix, with their vectors, in the library's order. -/
def symmetricEigenSigned (m : DenseMatrix K) (tolerance : K) : BrainResult (List (K × List K)) := do
  m.validate "jacobi_eigen_matrix"
  failIf (m.rows.length ≠ m.cols ∨ ¬Scalar.isFinite tolerance ∨ Scalar.le tolerance 0)
    (invalid "jacobi_eigen_shape")
  if m.rows.isEmpty then return []
  failIf (asymmetric m) (invalid "jacobi_eigen_matrix_not_symmetric")
  let pairs ← okOr (Spectral.selfAdjointEigen m) (.numerical "faer_self_adjoint_evd_failed")
  pairs.mapM eigenpair

/-- A symmetric matrix without negative eigenvalues, up to the bound. -/
def validateSymmetricPsd (m : DenseMatrix K) (label : String) : BrainResult Unit := do
  failIf (m.rows.length ≠ m.cols ∨ m.rows.isEmpty ∨ ¬m.finite) (invalid (label ++ "_shape"))
  failIf (asymmetric m) (invalid (label ++ "_not_symmetric"))
  let eigs ← symmetricEigenSigned m (Scalar.lit 1 12)
  failIf (eigs.any fun pair => Scalar.lt pair.1 (-spectralTolerance m))
    (invalid (label ++ "_not_psd"))

end Tidex
