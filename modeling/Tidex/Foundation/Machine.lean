/-
  Foundation.Machine — the logarithms of the platform.

  Sums, products and roots of doubles compute on their words.
-/
import Tidex.Lib.Binary64

namespace Tidex

open Tidex.Lib

class Logarithms where
  /-- The natural logarithm. -/
  ln : F64 → F64
  /-- The natural logarithm of one more. -/
  ln1p : F64 → F64

end Tidex
