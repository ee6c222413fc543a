/-
  Receiver.Readout — two rows of a matrix, read in chunks.
-/
import Tidex.Foundation.Reference
import Tidex.Lib.Segment
import Tidex.Lib.Widened
import Tidex.Receiver.Layout

namespace Tidex.Receiver

open Tidex.Lib List ByteArray SafeTensorArchive

/-! ## Decoding -/

/-- How many values are decoded at once. -/
def streamElements : Nat := 262144

/-- The bytes of one value of a type of floats. -/
def floatingInputWidth (dtype : String) : BrainResult {n : Nat // 0 < n} :=
  if dtype = "BF16" ∨ dtype = "F16" then .ok ⟨2, Nat.succ_pos 1⟩
  else if dtype = "F32" then .ok ⟨4, Nat.succ_pos 3⟩
  else .error (invalid ("model_weight_delta_requires_float_tensor:" ++ dtype))

def f32FromBits (bits : Nat) : F32 where
  bits := bits % 2 ^ 32
  lt := Nat.mod_lt _ (Nat.two_pow_pos 32)

/-- Shift a fraction up to its hidden bit, and count the shifts. -/
def normalizeFraction : Nat → Nat × Nat → Nat × Nat
  | 0, acc => acc
  | steps + 1, (mantissa, shift) =>
    if mantissa &&& 0x0400 = 0 then normalizeFraction steps (mantissa <<< 1, shift + 1)
    else (mantissa, shift)

def f16ToF32 (bits : Nat) : F32 :=
  let sign := (bits >>> 15) &&& 1
  let exponent := (bits >>> 10) &&& 0x1f
  let fraction := bits &&& 0x03ff
  if exponent = 0 then
    if fraction = 0 then f32FromBits (sign <<< 31)
    else
      let (mantissa, shift) := normalizeFraction 10 (fraction, 0)
      let mantissa := mantissa &&& 0x03ff
      f32FromBits ((sign <<< 31) ||| ((127 - 14 - shift) <<< 23) ||| (mantissa <<< 13))
  else if exponent = 0x1f then
    f32FromBits ((sign <<< 31) ||| (0xff <<< 23) ||| (fraction <<< 13))
  else f32FromBits ((sign <<< 31) ||| ((exponent + (127 - 15)) <<< 23) ||| (fraction <<< 13))

def decodeValue (dtype : String) (raw : ByteArray) : F32 :=
  if dtype = "BF16" then f32FromBits (ofLe raw <<< 16)
  else if dtype = "F16" then f16ToF32 (ofLe raw)
  else f32FromBits (ofLe raw)

def chunksExact (width : Nat) (bytes : ByteArray) : List ByteArray :=
  (List.range (bytes.size / width)).map fun i => bytes.extract (i * width) (i * width + width)

def valuesOf (dtype : String) (width : Nat) (bytes : ByteArray) : List F32 :=
  (chunksExact width bytes).map (decodeValue dtype)

def nonfiniteValue : BrainError := integrity "model_tensor_nonfinite_value"

def decodeFloatValues (dtype : String) (bytes : ByteArray) (count : Nat) :
    BrainResult (List F32) := do
  let width ← floatingInputWidth dtype
  failIf (bytes.size ≠ min (count * width) (u64Width - 1))
    (integrity "model_tensor_decode_size_mismatch")
  let values := valuesOf dtype width bytes
  failIf (values.any fun value => !value.isFinite) nonfiniteValue
  return values

def matrixRow (values : List F32) (columns row : Nat) : List F32 :=
  segment values (row * columns) (row * columns + columns)

def IsRow (values : List F32) (columns row : Nat) (weights : List F64) : Prop :=
  weights.length = columns ∧
    ∀ column < columns, weights[column]? = values[row * columns + column]?.map F32.toF64

def readExact (file : ByteArray) (position size : Nat) : BrainResult ByteArray := do
  failIf (position + size > file.size) (.io .other)
  return file.extract position (position + size)

/-! ## Readouts -/

structure LinearReadoutInspection where
  schema : String
  inputDimension : Nat
  modelSha256 : Sha256Digest
  tensorId : TensorId
  positiveRow : Nat
  negativeRow : Nat
  positiveWeights : List F64
  negativeWeights : List F64
  differenceWeights : List F64

/-- What the chunks so far gave: the bytes that were hashed, and what they hold of each row. -/
structure Readout where
  hashed : ByteArray
  positive : List F64
  negative : List F64

def extendRow (width rowBytes consumed stop rowStart : Nat) (values : List F32)
    (destination : List F64) : List F64 :=
  let overlapStart := max consumed rowStart
  let overlapEnd := min stop (rowStart + rowBytes)
  if overlapStart < overlapEnd then
    let first := (overlapStart - consumed) / width
    let last := (overlapEnd - consumed) / width
    destination ++ (segment values first last).map F32.toF64
  else destination

namespace SafeTensorArchive

def readoutLoop (a : SafeTensorArchive) (tensor : ParsedTensor) (width : {n : Nat // 0 < n})
    (rowBytes positiveStart negativeStart consumed : Nat) (acc : Readout) : BrainResult Readout :=
  if _h : consumed < tensor.spec.dataByteCount then do
    let take := min (tensor.spec.dataByteCount - consumed) (streamElements * width)
    let chunk ← readExact a.file (a.dataStart + tensor.dataStart + consumed) take
    let values ← decodeFloatValues tensor.spec.dtype chunk (take / width)
    let stop := consumed + take
    readoutLoop a tensor width rowBytes positiveStart negativeStart stop
      { hashed := acc.hashed ++ chunk
        positive := extendRow width rowBytes consumed stop positiveStart values acc.positive
        negative := extendRow width rowBytes consumed stop negativeStart values acc.negative }
  else return acc
termination_by tensor.spec.dataByteCount - consumed
decreasing_by
  have hchunk : 0 < streamElements * width.1 := Nat.mul_pos (by decide) width.2
  omega

variable [Platform]

def inspectLinearReadout (a : SafeTensorArchive) (tensorId : TensorId)
    (positiveRow negativeRow : Nat) : BrainResult LinearReadoutInspection := do
  let tensor ← a.tensor tensorId
  match tensor.spec.shape with
  | [rows, columns] => do
    failIf (columns > 4096 ∨ positiveRow = negativeRow ∨ positiveRow ≥ rows ∨ negativeRow ≥ rows)
      (invalid "linear_readout_shape_or_rows_invalid")
    let inputDimension := columns
    let width ← floatingInputWidth tensor.spec.dtype
    let rowBytes ← checkedMul u64Width inputDimension width
      (invalid "linear_readout_row_size_overflow")
    let positiveStart ← checkedMul u64Width positiveRow rowBytes
      (invalid "linear_readout_row_offset_overflow")
    let negativeStart ← checkedMul u64Width negativeRow rowBytes
      (invalid "linear_readout_row_offset_overflow")
    let _ ← checkedAdd u64Width a.dataStart tensor.dataStart
      (invalid "model_tensor_offset_overflow")
    let readout ← a.readoutLoop tensor width rowBytes positiveStart negativeStart 0
      ⟨ByteArray.empty, [], []⟩
    a.verifyConsumedTensor tensor readout.hashed
    failIf (readout.positive.length ≠ inputDimension ∨ readout.negative.length ≠ inputDimension)
      (integrity "linear_readout_row_length_mismatch")
    let differenceWeights := readout.positive.zipWith (· - ·) readout.negative
    failIf (differenceWeights.any fun value => !value.isFinite)
      (integrity "linear_readout_difference_nonfinite")
    return {
      schema := "tidex.linear_readout_inspection/v1"
      inputDimension := inputDimension
      modelSha256 := a.inventory.modelSha256
      tensorId := tensorId
      positiveRow := positiveRow
      negativeRow := negativeRow
      positiveWeights := readout.positive
      negativeWeights := readout.negative
      differenceWeights := differenceWeights }
  | _ => .error (invalid "linear_readout_shape_or_rows_invalid")

def readF32Tensor (a : SafeTensorArchive) (tensorId : TensorId) : BrainResult (List F32) := do
  let tensor ← a.tensor tensorId
  let count := tensor.spec.parameterCount
  let position ← checkedAdd u64Width a.dataStart tensor.dataStart
    (invalid "model_tensor_offset_overflow")
  let width ← floatingInputWidth tensor.spec.dtype
  let size ← checkedMul u64Width count width (invalid "model_tensor_read_size_overflow")
  let raw ← readExact a.file position size
  a.verifyConsumedTensor tensor raw
  decodeFloatValues tensor.spec.dtype raw count

end SafeTensorArchive

/-! ## Values of a segment -/

lemma length_valuesOf (dtype : String) (width : Nat) (bytes : ByteArray) :
    (valuesOf dtype width bytes).length = bytes.size / width := by
  unfold valuesOf chunksExact
  rw [length_map, length_map, length_range]

lemma valuesOf_extract (dtype : String) {width : Nat} (hwidth : 0 < width) (bytes : ByteArray)
    {first last : Nat} (h : first ≤ last) (hlast : width * last ≤ bytes.size) :
    valuesOf dtype width (bytes.extract (width * first) (width * last)) =
      segment (valuesOf dtype width bytes) first last := by
  have hsize : (bytes.extract (width * first) (width * last)).size / width = last - first := by
    rw [size_extract, Nat.min_eq_left hlast, ← Nat.mul_sub, Nat.mul_div_cancel_left _ hwidth]
  have hcount : last ≤ bytes.size / width := by
    rw [Nat.le_div_iff_mul_le hwidth, Nat.mul_comm]
    exact hlast
  refine ext_getElem? ?_
  intro i
  rw [getElem?_segment]
  unfold valuesOf chunksExact
  rw [hsize]
  by_cases hi : first + i < last
  · rw [if_pos hi, getElem?_map, getElem?_map, getElem?_range (by omega),
      getElem?_map, getElem?_map, getElem?_range (by omega)]
    simp only [Option.map_some, Option.some.injEq]
    congr 1
    have hmul : width * (first + i) + width ≤ width * last := by
      rw [← Nat.mul_succ]
      exact Nat.mul_le_mul_left _ hi
    rw [extract_extract]
    have hstart : width * first + i * width = (first + i) * width := by
      rw [Nat.mul_comm width first, ← Nat.add_mul]
    have hstop : min (width * first + (i * width + width)) (width * last) =
        (first + i) * width + width := by
      rw [← Nat.add_assoc, hstart, Nat.mul_comm (first + i) width]
      exact Nat.min_eq_left hmul
    rw [hstart, hstop]
  · rw [if_neg hi, getElem?_eq_none]
    rw [length_map, length_map, length_range]
    omega

lemma isRow_matrixRow {values : List F32} {rows columns row : Nat}
    (hcount : values.length = rows * columns) (hrow : row < rows) :
    IsRow values columns row ((matrixRow values columns row).map F32.toF64) := by
  have hend : row * columns + columns ≤ values.length := by
    rw [hcount, ← Nat.succ_mul]
    exact Nat.mul_le_mul_right _ hrow
  unfold matrixRow
  constructor
  · rw [length_map, length_segment hend, Nat.add_sub_cancel_left]
  · intro column hcolumn
    rw [getElem?_map, getElem?_segment, if_pos (by omega)]

lemma decodeFloatValues_eq {dtype : String} {width : {n : Nat // 0 < n}} {bytes : ByteArray}
    {count : Nat} (hwidth : floatingInputWidth dtype = .ok width)
    (hsize : bytes.size = count * width) (hfits : count * width < u64Width) :
    decodeFloatValues dtype bytes count =
      if (valuesOf dtype width bytes).any (fun value => !value.isFinite)
        then .error nonfiniteValue else .ok (valuesOf dtype width bytes) := by
  unfold decodeFloatValues
  have hmin : min (count * width.1) (u64Width - 1) = count * width.1 := by omega
  rw [hwidth, ok_bind, hmin]
  dsimp only
  unfold failIf
  rw [if_neg (not_not.mpr hsize), ok_bind]
  split <;> rfl

lemma floatingInputWidth_ok {dtype : String} (h : dtype ∈ ["BF16", "F16", "F32"]) :
    ∃ width, floatingInputWidth dtype = .ok width := by
  simp only [mem_cons, not_mem_nil, or_false] at h
  rcases h with rfl | rfl | rfl
  · exact ⟨_, rfl⟩
  · exact ⟨_, rfl⟩
  · exact ⟨_, rfl⟩

/-! ## The chunks -/

lemma extendRow_eq {width columns consumed stop row : Nat} (hwidth : 0 < width)
    (h : consumed ≤ stop) {values all : List F32} (hvalues : values = segment all consumed stop)
    (hstop : stop ≤ all.length) {destination : List F64} (hdestination : destination =
      (window all (row * columns) (row * columns + columns) consumed).map F32.toF64) :
    extendRow width (columns * width) (width * consumed) (width * stop) (row * (columns * width))
        values destination =
      (window all (row * columns) (row * columns + columns) stop).map F32.toF64 := by
  have hstart : row * (columns * width) = width * (row * columns) := by
    rw [← Nat.mul_assoc, Nat.mul_comm]
  have hend : width * (row * columns) + columns * width = width * (row * columns + columns) := by
    rw [Nat.mul_add, Nat.mul_comm columns width]
  have hfirst : ∀ x, (width * x - width * consumed) / width = x - consumed := by
    intro x
    rw [← Nat.mul_sub, Nat.mul_div_cancel_left _ hwidth]
  unfold extendRow
  dsimp only
  rw [hstart, hend, Nat.mul_max_mul_left, Nat.mul_min_mul_left, hfirst, hfirst,
    window_step all h hstop, map_append, ← hdestination, ← hvalues]
  by_cases hoverlap : max consumed (row * columns) < min stop (row * columns + columns)
  · rw [if_pos hoverlap, if_pos (Nat.mul_lt_mul_of_pos_left hoverlap hwidth)]
  · have hbytes : ¬width * max consumed (row * columns) <
        width * min stop (row * columns + columns) := by
      intro hlt
      exact hoverlap (Nat.lt_of_mul_lt_mul_left hlt)
    rw [if_neg hoverlap, if_neg hbytes, map_nil, append_nil]

namespace SafeTensorArchive

variable {a : SafeTensorArchive} {t : ParsedTensor} {width : {n : Nat // 0 < n}}

/-- What is known of a tensor of floats of an accepted file. -/
structure Floats (a : SafeTensorArchive) (t : ParsedTensor) (width : {n : Nat // 0 < n}) :
    Prop where
  type : floatingInputWidth t.spec.dtype = .ok width
  count : t.spec.dataByteCount = t.spec.parameterCount * width
  fits : t.spec.dataByteCount < u64Width
  place : a.dataStart + t.dataStart + t.spec.dataByteCount ≤ a.file.size
  size : (a.tensorBytes t).size = t.spec.dataByteCount

def values (a : SafeTensorArchive) (t : ParsedTensor) (width : {n : Nat // 0 < n}) : List F32 :=
  valuesOf t.spec.dtype width (a.tensorBytes t)

lemma Floats.length_values (h : Floats a t width) :
    (a.values t width).length = t.spec.parameterCount := by
  unfold values
  rw [length_valuesOf, h.size, h.count, Nat.mul_div_cancel _ width.2]

lemma Floats.readExact_eq (h : Floats a t width) {first last : Nat} (hle : first ≤ last)
    (hlast : last ≤ t.spec.parameterCount) :
    readExact a.file (a.dataStart + t.dataStart + width * first) (width * last - width * first) =
      .ok ((a.tensorBytes t).extract (width * first) (width * last)) := by
  have hmul : width.1 * first ≤ width * last := Nat.mul_le_mul_left _ hle
  have hbytes : width.1 * last ≤ t.spec.dataByteCount := by
    rw [h.count, Nat.mul_comm]
    exact Nat.mul_le_mul_right _ hlast
  have hplace := h.place
  unfold readExact failIf
  rw [if_neg (by omega), ok_bind]
  unfold tensorBytes
  rw [extract_extract]
  have hstop : min (a.dataStart + t.dataStart + width.1 * last)
      (a.dataStart + t.dataStart + t.spec.dataByteCount) =
        a.dataStart + t.dataStart + width * first + (width * last - width * first) := by omega
  rw [hstop]
  rfl

/-- What a chunk stands for: values of the tensor, unless one of them is not finite. -/
lemma Floats.decode_eq (h : Floats a t width) {first last : Nat} (hle : first ≤ last)
    (hlast : last ≤ t.spec.parameterCount) :
    decodeFloatValues t.spec.dtype ((a.tensorBytes t).extract (width * first) (width * last))
        ((width * last - width * first) / width) =
      if (segment (a.values t width) first last).any (fun value => !value.isFinite)
        then .error nonfiniteValue else .ok (segment (a.values t width) first last) := by
  have hbytes : width.1 * last ≤ t.spec.dataByteCount := by
    rw [h.count, Nat.mul_comm]
    exact Nat.mul_le_mul_right _ hlast
  have hsize : ((a.tensorBytes t).extract (width * first) (width * last)).size =
      (width * last - width * first) / width * width := by
    rw [size_extract, h.size, Nat.min_eq_left hbytes, ← Nat.mul_sub,
      Nat.mul_div_cancel_left _ width.2, Nat.mul_comm]
  have hfits : (width * last - width * first) / width.1 * width < u64Width := by
    have hle := Nat.div_mul_le_self (width * last - width * first) width.1
    have := h.fits
    omega
  have hvalues := valuesOf_extract t.spec.dtype width.2 (a.tensorBytes t) hle (by
    rw [h.size]
    exact hbytes)
  rw [decodeFloatValues_eq h.type hsize hfits, hvalues]
  rfl

/-- What the chunks give up to a position: the bytes, and the windows of two rows. -/
def readUpTo (a : SafeTensorArchive) (t : ParsedTensor) (width : {n : Nat // 0 < n})
    (columns positiveRow negativeRow read : Nat) : Readout where
  hashed := (a.tensorBytes t).extract 0 (width * read)
  positive := (window (a.values t width) (positiveRow * columns)
    (positiveRow * columns + columns) read).map F32.toF64
  negative := (window (a.values t width) (negativeRow * columns)
    (negativeRow * columns + columns) read).map F32.toF64

/-- The chunks from a position on complete both windows, unless a value is not finite. -/
lemma Floats.readoutLoop_eq (h : Floats a t width) (columns positiveRow negativeRow : Nat)
    {read : Nat} (hread : read ≤ t.spec.parameterCount) :
    a.readoutLoop t width (columns * width) (positiveRow * (columns * width))
        (negativeRow * (columns * width)) (width * read)
        (a.readUpTo t width columns positiveRow negativeRow read) =
      if (segment (a.values t width) read t.spec.parameterCount).any (fun value => !value.isFinite)
        then .error nonfiniteValue
        else .ok (a.readUpTo t width columns positiveRow negativeRow t.spec.parameterCount) := by
  have hlength := h.length_values
  generalize hleft : t.spec.parameterCount - read = left
  induction left using Nat.strong_induction_on generalizing read with
  | _ left ih =>
    by_cases hdone : read = t.spec.parameterCount
    · subst hdone
      have hcount := h.count
      have hnone : segment (a.values t width) t.spec.parameterCount t.spec.parameterCount = [] :=
        segment_of_le (Nat.le_refl _)
      rw [readoutLoop, dif_neg (by rw [hcount, Nat.mul_comm]; exact Nat.lt_irrefl _), hnone]
      rfl
    · -- the next chunk ends at the tensor's end, or after so many values
      set next := min t.spec.parameterCount (read + streamElements) with hnext
      have hstream : 0 < streamElements := by decide
      have hlt : read < next := by omega
      have hle : next ≤ t.spec.parameterCount := by omega
      have hrest := ih (t.spec.parameterCount - next) (by omega) hle rfl
      have hconsumed : width.1 * read < t.spec.dataByteCount := by
        rw [h.count, Nat.mul_comm t.spec.parameterCount]
        exact Nat.mul_lt_mul_of_pos_left (by omega) width.2
      have htake : min (t.spec.dataByteCount - width * read) (streamElements * width.1) =
          width * next - width * read := by
        rw [h.count, hnext, Nat.mul_comm t.spec.parameterCount, Nat.mul_comm streamElements,
          ← Nat.mul_sub, ← Nat.mul_sub, Nat.mul_min_mul_left]
        congr 1
        omega
      have hstop : width * read + (width * next - width * read) = width.1 * next := by
        have := Nat.mul_le_mul_left width.1 hlt.le
        omega
      have hbytes : width.1 * next ≤ (a.tensorBytes t).size := by
        rw [h.size, h.count, Nat.mul_comm]
        exact Nat.mul_le_mul_right _ hle
      have hhashed : (a.tensorBytes t).extract 0 (width * read) ++
          (a.tensorBytes t).extract (width * read) (width * next) =
            (a.tensorBytes t).extract 0 (width * next) :=
        (extract_eq_extract_append_extract _ (Nat.zero_le _)
          (Nat.mul_le_mul_left _ hlt.le)).symm
      have hrow : ∀ row, extendRow width (columns * width) (width * read) (width * next)
          (row * (columns * width)) (segment (a.values t width) read next)
          ((window (a.values t width) (row * columns) (row * columns + columns) read).map
            F32.toF64) =
          (window (a.values t width) (row * columns) (row * columns + columns) next).map
            F32.toF64 := by
        intro row
        exact extendRow_eq width.2 hlt.le rfl (by omega) rfl
      have hsplit : segment (a.values t width) read t.spec.parameterCount =
          segment (a.values t width) read next ++
            segment (a.values t width) next t.spec.parameterCount :=
        (segment_append _ hlt.le hle (by omega)).symm
      rw [readoutLoop, dif_pos hconsumed]
      dsimp only
      rw [htake, hstop, h.readExact_eq hlt.le hle, ok_bind, h.decode_eq hlt.le hle, hsplit,
        any_append]
      by_cases hfinite :
          (segment (a.values t width) read next).any (fun value => !value.isFinite) = true
      · rw [if_pos hfinite, hfinite, Bool.true_or, if_pos rfl]
        rfl
      · rw [if_neg hfinite, ok_bind]
        rw [Bool.not_eq_true] at hfinite
        rw [hfinite, Bool.false_or, ← hrest]
        unfold readUpTo
        dsimp only
        rw [hhashed, hrow, hrow]

lemma readUpTo_zero (columns positiveRow negativeRow : Nat) :
    a.readUpTo t width columns positiveRow negativeRow 0 = ⟨empty, [], []⟩ := by
  unfold readUpTo
  rw [window_zero, window_zero, Nat.mul_zero, extract_same, map_nil]

variable {rows columns positiveRow negativeRow : Nat}

lemma Floats.readUpTo_all (h : Floats a t width) (hcount : t.spec.parameterCount = rows * columns)
    (hpositive : positiveRow < rows) (hnegative : negativeRow < rows) :
    a.readUpTo t width columns positiveRow negativeRow t.spec.parameterCount =
      { hashed := a.tensorBytes t
        positive := (matrixRow (a.values t width) columns positiveRow).map F32.toF64
        negative := (matrixRow (a.values t width) columns negativeRow).map F32.toF64 } := by
  have hend : ∀ row, row < rows → row * columns + columns ≤ t.spec.parameterCount := by
    intro row hrow
    rw [hcount, ← Nat.succ_mul]
    exact Nat.mul_le_mul_right _ hrow
  have hwhole : (a.tensorBytes t).extract 0 (width * t.spec.parameterCount) = a.tensorBytes t := by
    rw [Nat.mul_comm, ← h.count, ← h.size]
    exact extract_zero_size
  unfold readUpTo window matrixRow
  rw [hwhole, Nat.min_eq_right (hend _ hpositive), Nat.min_eq_right (hend _ hnegative)]

/-! ## Readouts of accepted files -/

lemma dtypeBits_of_floatingInputWidth {dtype : String}
    (h : floatingInputWidth dtype = .ok width) : dtypeBits dtype = some (8 * width.1) := by
  unfold floatingInputWidth at h
  by_cases hhalf : dtype = "BF16" ∨ dtype = "F16"
  · rw [if_pos hhalf] at h
    cases h
    rcases hhalf with rfl | rfl
    · decide
    · decide
  · rw [if_neg hhalf] at h
    by_cases hsingle : dtype = "F32"
    · rw [if_pos hsingle] at h
      cases h
      rw [hsingle]
      decide
    · rw [if_neg hsingle] at h
      cases h

lemma Valid.floats (ha : a.Valid) (ht : t ∈ a.tensors)
    (hwidth : floatingInputWidth t.spec.dtype = .ok width) : Floats a t width := by
  obtain ⟨bits, hbits, hfits, hbytes⟩ := (ha.tensors_valid t ht).spec.bytes
  rw [dtypeBits_of_floatingInputWidth hwidth, Option.some.injEq] at hbits
  have hcount : t.spec.dataByteCount = t.spec.parameterCount * width := by
    have height : 8 * t.spec.dataByteCount = 8 * (t.spec.parameterCount * width.1) := by
      rw [hbytes, ← hbits, Nat.mul_left_comm]
    omega
  have hspan := ha.shifted.mem (mem_map_of_mem ht)
  have hsize := (ha.tensors_valid t ht).size
  dsimp only at hspan
  exact {
    type := hwidth
    count := hcount
    fits := by omega
    place := by omega
    size := ha.size_tensorBytes ht }

variable [Platform]

/-- Decoding a tensor whole gives its values, unless one of them is not finite. -/
lemma readF32Tensor_eq (ha : a.Valid) (hd : a.Digested) {tensorId : TensorId}
    (ht : a.tensor tensorId = .ok t) (hwidth : floatingInputWidth t.spec.dtype = .ok width) :
    a.readF32Tensor tensorId =
      if (a.values t width).any (fun value => !value.isFinite) then .error nonfiniteValue
        else .ok (a.values t width) := by
  have hmem : t ∈ a.tensors := (ha.tensor_ok.mp ht).1
  have h := ha.floats hmem hwidth
  have hfits := h.fits
  have hplace := h.place
  have hlt := ha.size_lt
  have hposition : ∀ e : BrainError, checkedAdd u64Width a.dataStart t.dataStart e =
      .ok (a.dataStart + t.dataStart) :=
    fun e => checkedAdd_ok.mpr ⟨by omega, rfl⟩
  have hsize : ∀ e : BrainError, checkedMul u64Width t.spec.parameterCount width e =
      .ok (t.spec.parameterCount * width) :=
    fun e => checkedMul_ok.mpr ⟨by rw [← h.count]; exact hfits, rfl⟩
  have hraw : readExact a.file (a.dataStart + t.dataStart) t.spec.dataByteCount =
      .ok (a.tensorBytes t) := by
    unfold readExact failIf tensorBytes
    rw [if_neg (by omega), ok_bind]
    rfl
  unfold readF32Tensor
  rw [ht, ok_bind, hposition, ok_bind, hwidth, ok_bind, hsize, ok_bind, ← h.count, hraw, ok_bind,
    verifyConsumedTensor_ok hd hmem, ok_bind,
    decodeFloatValues_eq hwidth (h.size.trans h.count) (by rw [← h.count]; exact hfits)]
  rfl

def readoutOf (a : SafeTensorArchive) (tensorId : TensorId) (values : List F32)
    (columns positiveRow negativeRow : Nat) : LinearReadoutInspection :=
  let positive := (matrixRow values columns positiveRow).map F32.toF64
  let negative := (matrixRow values columns negativeRow).map F32.toF64
  { schema := "tidex.linear_readout_inspection/v1"
    inputDimension := columns
    modelSha256 := a.inventory.modelSha256
    tensorId := tensorId
    positiveRow := positiveRow
    negativeRow := negativeRow
    positiveWeights := positive
    negativeWeights := negative
    differenceWeights := positive.zipWith (· - ·) negative }

omit [Platform] in
lemma isFinite_differences {positive negative : List F32}
    (hpositive : ∀ x ∈ positive, x.isFinite = true)
    (hnegative : ∀ x ∈ negative, x.isFinite = true) :
    ((positive.map F32.toF64).zipWith (· - ·) (negative.map F32.toF64)).any
      (fun value => !value.isFinite) = false := by
  rw [any_eq_false]
  intro value hvalue
  rw [zipWith_map, mem_iff_getElem?] at hvalue
  obtain ⟨i, hi⟩ := hvalue
  rw [getElem?_zipWith_eq_some] at hi
  obtain ⟨x, y, hx, hy, hvalue⟩ := hi
  rw [← hvalue, F32.isFinite_sub (hpositive x (mem_of_getElem? hx))
    (hnegative y (mem_of_getElem? hy))]
  decide

lemma inspectLinearReadout_eq (ha : a.Valid) (hd : a.Digested) {tensorId : TensorId}
    (ht : a.tensor tensorId = .ok t) (hwidth : floatingInputWidth t.spec.dtype = .ok width)
    (hshape : t.spec.shape = [rows, columns]) (hcolumns : columns ≤ 4096)
    (hne : positiveRow ≠ negativeRow) (hpositive : positiveRow < rows)
    (hnegative : negativeRow < rows) : a.inspectLinearReadout tensorId positiveRow negativeRow =
      if (a.values t width).any (fun value => !value.isFinite) then .error nonfiniteValue
        else .ok (a.readoutOf tensorId (a.values t width) columns positiveRow negativeRow) := by
  have hmem : t ∈ a.tensors := (ha.tensor_ok.mp ht).1
  have h := ha.floats hmem hwidth
  have hplace := h.place
  have hlt := ha.size_lt
  have hcount : t.spec.parameterCount = rows * columns := by
    rw [(ha.tensors_valid t hmem).spec.count, hshape, prod_cons, prod_singleton]
  have hbytes : t.spec.dataByteCount = rows * (columns * width) := by
    rw [h.count, hcount, Nat.mul_assoc]
  -- no product of the offsets of a row overflows
  have hrow : ∀ row, row < rows → row * (columns * width.1) < u64Width := by
    intro row hrow
    have := Nat.mul_le_mul_right (columns * width.1) hrow.le
    omega
  have hone : columns * width.1 < u64Width := by
    have := Nat.mul_le_mul_right (columns * width.1) (Nat.one_le_of_lt hpositive)
    omega
  have hstart : ∀ row, row < rows → ∀ e : BrainError,
      checkedMul u64Width row (columns * width) e = .ok (row * (columns * width)) :=
    fun row h e => checkedMul_ok.mpr ⟨hrow row h, rfl⟩
  have hrowBytes : ∀ e : BrainError, checkedMul u64Width columns width e = .ok (columns * width) :=
    fun e => checkedMul_ok.mpr ⟨hone, rfl⟩
  have hposition : ∀ e : BrainError, checkedAdd u64Width a.dataStart t.dataStart e =
      .ok (a.dataStart + t.dataStart) :=
    fun e => checkedAdd_ok.mpr ⟨by omega, rfl⟩
  have hloop := h.readoutLoop_eq columns positiveRow negativeRow (Nat.zero_le _)
  rw [Nat.mul_zero, readUpTo_zero, ← h.length_values, segment_all, h.length_values,
    h.readUpTo_all hcount hpositive hnegative] at hloop
  unfold inspectLinearReadout failIf
  rw [ht, ok_bind]
  simp only [hshape]
  rw [if_neg (by omega), ok_bind, hwidth, ok_bind, hrowBytes, ok_bind,
    hstart _ hpositive, ok_bind, hstart _ hnegative, ok_bind, hposition, ok_bind, hloop]
  by_cases hfinite : (a.values t width).any (fun value => !value.isFinite) = true
  · rw [if_pos hfinite, if_pos hfinite]
    rfl
  · rw [if_neg hfinite, if_neg hfinite, ok_bind, verifyConsumedTensor_ok hd hmem, ok_bind]
    rw [Bool.not_eq_true, any_eq_false] at hfinite
    have hlength : ∀ row, row < rows →
        ((matrixRow (a.values t width) columns row).map F32.toF64).length = columns :=
      fun row hrow => (isRow_matrixRow (h.length_values.trans hcount) hrow).1
    have hrowFinite : ∀ row, ∀ x ∈ matrixRow (a.values t width) columns row,
        x.isFinite = true := by
      intro row x hx
      have := hfinite x (mem_of_mem_segment hx)
      simpa using this
    have hdifferences := isFinite_differences (hrowFinite positiveRow) (hrowFinite negativeRow)
    rw [if_neg (by rw [hlength _ hpositive, hlength _ hnegative]; simp), ok_bind, hdifferences,
      if_neg (by decide), ok_bind]
    rfl

/-- **A readout is two rows of the decoded tensor.** -/
theorem linear_readout_exact [JsonReader] {file : ByteArray} (hparse : parse file = .ok a)
    {tensorId : TensorId} (ht : a.tensor tensorId = .ok t) {rows columns : Nat}
    (hshape : t.spec.shape = [rows, columns]) (hcolumns : columns ≤ 4096)
    (hfloat : t.spec.dtype ∈ ["BF16", "F16", "F32"]) {positiveRow negativeRow : Nat}
    (hne : positiveRow ≠ negativeRow) (hpositive : positiveRow < rows)
    (hnegative : negativeRow < rows) : ∃ width, floatingInputWidth t.spec.dtype = .ok width ∧
      ((∀ x ∈ a.values t width, x.isFinite = true) →
        a.readF32Tensor tensorId = .ok (a.values t width) ∧
        ∃ readout, a.inspectLinearReadout tensorId positiveRow negativeRow = .ok readout ∧
          IsRow (a.values t width) columns positiveRow readout.positiveWeights ∧
          IsRow (a.values t width) columns negativeRow readout.negativeWeights) ∧
      ((∃ x ∈ a.values t width, x.isFinite = false) →
        a.inspectLinearReadout tensorId positiveRow negativeRow = .error nonfiniteValue) := by
  obtain ⟨-, ha, hd, -⟩ := parse_valid hparse
  have hmem : t ∈ a.tensors := (ha.tensor_ok.mp ht).1
  obtain ⟨width, hwidth⟩ := floatingInputWidth_ok hfloat
  have hread := readF32Tensor_eq ha hd ht hwidth
  have hinspect := inspectLinearReadout_eq ha hd ht hwidth hshape hcolumns hne hpositive hnegative
  have hcount : (a.values t width).length = rows * columns := by
    rw [(ha.floats hmem hwidth).length_values, (ha.tensors_valid t hmem).spec.count, hshape,
      prod_cons, prod_singleton]
  refine ⟨width, hwidth, ?_, ?_⟩
  · intro hfinite
    have hnone : (a.values t width).any (fun value => !value.isFinite) = false := by
      rw [any_eq_false]
      intro x hx
      rw [hfinite x hx]
      decide
    rw [hnone, if_neg (by decide)] at hread hinspect
    exact ⟨hread, _, hinspect, isRow_matrixRow hcount hpositive, isRow_matrixRow hcount hnegative⟩
  · intro h
    obtain ⟨x, hx, hinfinite⟩ := h
    have hsome : (a.values t width).any (fun value => !value.isFinite) = true := by
      rw [any_eq_true]
      exact ⟨x, hx, by rw [hinfinite]; rfl⟩
    rw [hsome, if_pos rfl] at hinspect
    exact hinspect

end SafeTensorArchive

/-! ## Two rows of one value -/

namespace ReadoutSample

attribute [local instance] Platform.reference JsonReader.exact

def tensorId : TensorId := ⟨"c.w", by decide⟩

def weight : ParsedTensor where
  spec := { tensorId := tensorId, dtype := "BF16", shape := [2, 1], parameterCount := 2,
            dataByteCount := 4 }
  dataStart := 0
  dataEnd := 4

def layout : Layout where
  metadata := none
  tensors := [weight]
  stop := 4
  tensors_ne := by decide
  tensors_valid := by
    intro t ht
    rw [List.mem_singleton] at ht
    subst ht
    exact ⟨⟨by decide, by decide, by decide, 16, by decide, by decide, by decide⟩, by decide⟩
  tiles := ⟨rfl, by decide, rfl⟩
  nodup := by decide
  counts_lt := by decide
  stop_lt := by decide

def rows : ByteArray := ⟨#[0x80, 0x3f, 0x00, 0x40]⟩

lemma header_size : layout.header.size ≤ 1008 := by
  have hdocument : headerDocument layout.metadata layout.tensors = .obj [weight.member] := by
    unfold headerDocument headerMembers ofMembers
    rw [toList_collect]
    · rfl
    · exact pairwise_singleton _ _
  have hsize : Json.byteSize (.obj [weight.member]) ≤ 1000 := by decide
  unfold Layout.header paddedHeader
  rw [hdocument, size_append, Json.size_spaces, Json.size_toBytes]
  omega

/-- The row of 1 and the row of 2. -/
theorem two_rows_read : ∃ a readout, SafeTensorArchive.parse (layout.encode [rows]) = .ok a ∧
      a.inspectLinearReadout tensorId 0 1 = .ok readout ∧
      readout.positiveWeights[0]? = (valuesOf "BF16" 2 rows)[0]?.map F32.toF64 ∧
      readout.negativeWeights[0]? = (valuesOf "BF16" 2 rows)[1]?.map F32.toF64 := by
  have hstop : layout.stop = 4 := rfl
  have hheader := header_size
  have hreads : ReadsHeader layout.metadata layout.tensors := read_padded _ _
  have hparts : [rows].map size = layout.tensors.map fun t => t.spec.dataByteCount := rfl
  obtain ⟨a, hparse, -, htensors, hbytes⟩ := layout.parse_written hreads
    (by unfold maxSafetensorsHeaderBytes; omega) (by unfold u64Width; omega) hparts
  have htensors : a.tensors = [weight] := htensors
  obtain ⟨-, ha, -⟩ := parse_valid hparse
  have ht : a.tensor tensorId = .ok weight := by
    rw [ha.tensor_ok, htensors]
    exact ⟨mem_singleton_self _, rfl⟩
  have hrows : a.tensorBytes weight = rows := by
    rw [htensors] at hbytes
    exact singleton_injective hbytes
  have hshape : weight.spec.shape = [2, 1] := rfl
  have hne : (0 : Nat) ≠ 1 := by decide
  obtain ⟨width, hwidth, hread, -⟩ := linear_readout_exact hparse ht hshape
    (by decide) (by decide) hne (by decide) (by decide)
  cases hwidth
  have hvalues : a.values weight ⟨2, Nat.succ_pos 1⟩ = valuesOf "BF16" 2 rows := by
    unfold values
    rw [hrows]
    rfl
  rw [hvalues] at hread
  obtain ⟨-, readout, hreadout, hpositive, hnegative⟩ := hread (by decide)
  exact ⟨a, readout, hparse, hreadout, hpositive.2 0 (by decide), hnegative.2 0 (by decide)⟩

end ReadoutSample

end Tidex.Receiver
