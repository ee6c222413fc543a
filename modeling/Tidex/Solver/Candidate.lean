/-
  Solver.Candidate — representations of a solver's candidate.
-/
import Tidex.Foundation.Reference
import Tidex.Lib.Binary64
import Tidex.Lib.Cells
import Tidex.Lib.Frame

namespace Tidex.Solver

open Tidex.Lib List

/-! ## Representations -/

def usizeValues : Nat := 2 ^ 64

/-- A vector of doubles. -/
structure F64Vec where
  values : List F64
  length_lt : values.length < 2 ^ 60
  deriving DecidableEq

namespace F64Vec

def length (v : F64Vec) : Nat := v.values.length

/-- The entry at an index. -/
def get (v : F64Vec) (i : Nat) : F64 := v.values.getD i (F64.zero false)

def hasNonfinite (v : F64Vec) : Bool := v.values.any fun value => !value.isFinite

end F64Vec

structure SparseEntry where
  row : Nat
  column : Nat
  value : F64
  deriving DecidableEq

structure DenseBlock where
  rowOffset : Nat
  columnOffset : Nat
  rows : Nat
  columns : Nat
  values : F64Vec
  deriving DecidableEq

inductive CandidateRepresentation where
  /-- `left` is row-major `[output, rank]`; `right` is `[rank, input]`. -/
  | lowRank (rows columns rank : Nat) (left right : F64Vec)
  /-- Row-major `[output, input]` update. -/
  | dense (rows columns : Nat) (weights : F64Vec)
  /-- Canonically ordered, unique, nonzero coordinates. -/
  | sparse (rows columns : Nat) (entries : List SparseEntry)
  /-- Canonically ordered, non-overlapping dense rectangles. -/
  | block (rows columns : Nat) (blocks : List DenseBlock)
  deriving DecidableEq

namespace CandidateRepresentation

def rows : CandidateRepresentation → Nat
  | .lowRank rows _ _ _ _ => rows
  | .dense rows _ _ => rows
  | .sparse rows _ _ => rows
  | .block rows _ _ => rows

def columns : CandidateRepresentation → Nat
  | .lowRank _ columns _ _ _ => columns
  | .dense _ columns _ => columns
  | .sparse _ columns _ => columns
  | .block _ columns _ => columns

end CandidateRepresentation

/-! ## Writing a representation out -/

def maxExactCandidateDenseElements : Nat := 16777216

def positions (rows columns : Nat) : List (Nat × Nat) :=
  (List.range rows).flatMap fun row => (List.range columns).map fun column => (row, column)

/-- The row-major order of coordinates. -/
def Before (a b : Nat × Nat) : Prop := a.1 < b.1 ∨ a.1 = b.1 ∧ a.2 < b.2

instance (a b : Nat × Nat) : Decidable (Before a b) :=
  inferInstanceAs (Decidable (_ ∨ _))

def productOrMax (a b : Nat) : Nat :=
  if a * b < usizeValues then a * b else usizeValues - 1

def compensatedStep (acc : F64 × F64) (value : F64) : BrainResult (F64 × F64) := do
  failIf (¬value.isFinite) (.numerical "solver_compensated_sum_input_nonfinite")
  let updated := acc.1 + value
  let lost := if value.abs.le? acc.1.abs then (acc.1 - updated) + value
    else (value - updated) + acc.1
  return (updated, acc.2 + lost)

def compensatedSum (values : List F64) : BrainResult F64 := do
  let acc ← values.foldlM compensatedStep (F64.zero false, F64.zero false)
  let result := acc.1 + acc.2
  failIf (¬result.isFinite) (.numerical "solver_compensated_sum_nonfinite")
  return result

def lowRankCell (columns rank : Nat) (left right : F64Vec) (row column : Nat) : BrainResult F64 :=
  compensatedSum ((List.range rank).map fun component =>
    left.get (row * rank + component) * right.get (component * columns + column))

/-- Write one cell of a product of factors. -/
def lowRankStep (columns rank : Nat) (left right : F64Vec) (dense : List F64)
    (cell : Nat × Nat) : BrainResult (List F64) := do
  let value ← lowRankCell columns rank left right cell.1 cell.2
  failIf (¬value.isFinite) (.numerical "solver_candidate_materialization_nonfinite")
  return dense.set (cell.1 * columns + cell.2) value

def sparseStep (rows columns : Nat) (acc : List F64 × Option (Nat × Nat)) (entry : SparseEntry) :
    BrainResult (List F64 × Option (Nat × Nat)) := do
  let coordinate := (entry.row, entry.column)
  failIf (rows ≤ entry.row ∨ columns ≤ entry.column ∨ ¬entry.value.isFinite ∨
      entry.value.eq? (F64.zero false) ∨ ∃ prior ∈ acc.2, ¬Before prior coordinate)
    (integrity "solver_sparse_candidate_not_canonical")
  return (acc.1.set (entry.row * columns + entry.column) entry.value, some coordinate)

def DenseBlock.denseIndex (block : DenseBlock) (columns : Nat) (cell : Nat × Nat) : Nat :=
  (block.rowOffset + cell.1) * columns + block.columnOffset + cell.2

def blockCell (columns : Nat) (block : DenseBlock) (acc : List F64 × List Bool)
    (cell : Nat × Nat) : BrainResult (List F64 × List Bool) := do
  let index := block.denseIndex columns cell
  failIf (acc.2.getD index false) (integrity "solver_block_candidate_overlap")
  return (acc.1.set index (block.values.get (cell.1 * block.columns + cell.2)),
    acc.2.set index true)

/-- Write one block, which comes after the previous one. -/
def blockStep (rows columns : Nat) (acc : (List F64 × List Bool) × Option (Nat × Nat))
    (block : DenseBlock) : BrainResult ((List F64 × List Bool) × Option (Nat × Nat)) := do
  let coordinate := (block.rowOffset, block.columnOffset)
  let rowEnd ← checkedAdd usizeValues block.rowOffset block.rows
    (integrity "solver_block_candidate_overflow")
  let columnEnd ← checkedAdd usizeValues block.columnOffset block.columns
    (integrity "solver_block_candidate_overflow")
  failIf (block.rows = 0 ∨ block.columns = 0 ∨ rows < rowEnd ∨ columns < columnEnd ∨
      block.values.length ≠ min (block.rows * block.columns) (usizeValues - 1) ∨
      block.values.hasNonfinite ∨ ∃ prior ∈ acc.2, ¬Before prior coordinate)
    (integrity "solver_block_candidate_not_canonical")
  let written ← (positions block.rows block.columns).foldlM (blockCell columns block) acc.1
  return (written, some coordinate)

def CandidateRepresentation.materializeDense (c : CandidateRepresentation) :
    BrainResult (List F64) := do
  let denseLen ← checkedMul usizeValues c.rows c.columns
    (invalid "solver_candidate_shape_overflow")
  failIf (maxExactCandidateDenseElements < denseLen)
    (invalid "solver_candidate_dense_materialization_limit")
  let zeros := List.replicate denseLen (F64.zero false)
  match c with
  | .dense rows columns weights =>
    let expected ← checkedMul usizeValues rows columns (invalid "solver_candidate_shape_overflow")
    failIf (weights.length ≠ expected ∨ weights.hasNonfinite)
      (integrity "solver_dense_candidate_invalid")
    return weights.values
  | .lowRank rows columns rank left right =>
    failIf (rank = 0 ∨ left.length ≠ productOrMax rows rank ∨
        right.length ≠ productOrMax rank columns ∨ left.hasNonfinite ∨ right.hasNonfinite)
      (integrity "solver_low_rank_candidate_invalid")
    (positions rows columns).foldlM (lowRankStep columns rank left right) zeros
  | .sparse rows columns entries =>
    let acc ← entries.foldlM (sparseStep rows columns) (zeros, none)
    return acc.1
  | .block rows columns blocks =>
    let acc ← blocks.foldlM (blockStep rows columns)
      ((zeros, List.replicate denseLen false), none)
    return acc.1.1

/-! ## The frame and its digest -/

/-- The bytes of a word behind what is written. -/
def appendUsize (frame : ByteArray) (value : Nat) (label : String) : BrainResult ByteArray := do
  failIf (usizeValues ≤ value) (invalid s!"solver_{label}_overflow")
  return frame ++ Lib.be64 value

/-- The bytes of a double behind what is written. -/
def appendBits (frame : ByteArray) (value : F64) : ByteArray := frame ++ Lib.be64 value.bits

def appendF64Slice (frame : ByteArray) (values : List F64) (label : String) :
    BrainResult ByteArray := do
  let frame ← appendUsize frame values.length label
  values.foldlM (fun frame value => do
    failIf (¬value.isFinite) (invalid s!"solver_{label}_nonfinite")
    return appendBits frame value) frame

def appendEntry (frame : ByteArray) (entry : SparseEntry) : BrainResult ByteArray := do
  let frame ← appendUsize frame entry.row "candidate_sparse_row"
  let frame ← appendUsize frame entry.column "candidate_sparse_column"
  return appendBits frame entry.value

def appendBlock (frame : ByteArray) (block : DenseBlock) : BrainResult ByteArray := do
  let frame ← appendUsize frame block.rowOffset "candidate_block_row"
  let frame ← appendUsize frame block.columnOffset "candidate_block_column"
  let frame ← appendUsize frame block.rows "candidate_block_rows"
  let frame ← appendUsize frame block.columns "candidate_block_columns"
  appendF64Slice frame block.values.values "candidate_block_values"

def mark (byte : UInt8) : ByteArray := ⟨#[byte]⟩

def CandidateRepresentation.frame (c : CandidateRepresentation) : BrainResult ByteArray := do
  let frame ← appendUsize ByteArray.empty c.rows "candidate_rows"
  let frame ← appendUsize frame c.columns "candidate_columns"
  match c with
  | .lowRank _ _ rank left right =>
    let frame ← appendUsize (frame ++ mark 0) rank "candidate_rank"
    let frame ← appendF64Slice frame left.values "candidate_left"
    appendF64Slice frame right.values "candidate_right"
  | .dense _ _ weights => appendF64Slice (frame ++ mark 1) weights.values "candidate_dense"
  | .sparse _ _ entries =>
    let frame ← appendUsize (frame ++ mark 2) entries.length "candidate_sparse_count"
    entries.foldlM appendEntry frame
  | .block _ _ blocks =>
    let frame ← appendUsize (frame ++ mark 3) blocks.length "candidate_block_count"
    blocks.foldlM appendBlock frame

/-- The identity of an accepted representation. -/
structure ExactSolverCandidateDigest where
  raw : Sha256Digest
  deriving DecidableEq

def exactCandidateDomain : String := "TIDEX:EXACT-SOLVER-CANDIDATE:v1\x00"

def CandidateRepresentation.exactDigest [Platform] (c : CandidateRepresentation) :
    BrainResult ExactSolverCandidateDigest := do
  let denseElements ← checkedMul usizeValues c.rows c.columns
    (invalid "solver_candidate_shape_overflow")
  failIf (maxExactCandidateDenseElements < denseElements)
    (invalid "solver_candidate_digest_resource_limit")
  let _ ← c.materializeDense
  let frame ← c.frame
  return ⟨Sha256Digest.digestDomain exactCandidateDomain frame⟩

/-! ## What a representation writes -/

def SparseEntry.coordinate (entry : SparseEntry) : Nat × Nat := (entry.row, entry.column)

def DenseBlock.coordinate (block : DenseBlock) : Nat × Nat := (block.rowOffset, block.columnOffset)

def SparseEntry.write (columns : Nat) (entry : SparseEntry) : Nat × F64 :=
  (entry.row * columns + entry.column, entry.value)

def DenseBlock.writes (columns : Nat) (block : DenseBlock) : List (Nat × F64) :=
  (positions block.rows block.columns).map fun cell =>
    (block.denseIndex columns cell, block.values.get (cell.1 * block.columns + cell.2))

def lowRankValue (columns rank : Nat) (left right : F64Vec) (cell : Nat × Nat) : F64 :=
  match lowRankCell columns rank left right cell.1 cell.2 with
  | .ok value => value
  | .error _ => F64.zero false

def lowRankWrite (columns rank : Nat) (left right : F64Vec) (cell : Nat × Nat) : Nat × F64 :=
  (cell.1 * columns + cell.2, lowRankValue columns rank left right cell)

namespace CandidateRepresentation

/-- What each entry or block writes. -/
def parts : CandidateRepresentation → List (List (Nat × F64))
  | .lowRank rows columns rank left right =>
    [(positions rows columns).map (lowRankWrite columns rank left right)]
  | .dense _ _ weights => [weights.values.zipIdx.map Prod.swap]
  | .sparse _ columns entries => entries.map fun entry => [entry.write columns]
  | .block _ columns blocks => blocks.map (DenseBlock.writes columns)

def writes (c : CandidateRepresentation) : List (Nat × F64) := c.parts.flatten

def coordinates : CandidateRepresentation → List (Nat × Nat)
  | .lowRank _ _ _ _ _ => []
  | .dense _ _ _ => []
  | .sparse _ _ entries => entries.map SparseEntry.coordinate
  | .block _ _ blocks => blocks.map DenseBlock.coordinate

/-- No vector is read outside its length. -/
def ReadsInRange : CandidateRepresentation → Prop
  | .lowRank rows columns rank left right =>
    ∀ row < rows, ∀ column < columns, ∀ component < rank,
      row * rank + component < left.length ∧ component * columns + column < right.length
  | .dense _ _ _ => True
  | .sparse _ _ _ => True
  | .block _ _ blocks => ∀ block ∈ blocks, ∀ cell ∈ positions block.rows block.columns,
      cell.1 * block.columns + cell.2 < block.values.length

/-- The dense matrix holds what the representation writes, each cell at most once, and zeros. -/
structure Canonical (c : CandidateRepresentation) (dense : List F64) : Prop where
  length_eq : dense.length = c.rows * c.columns
  once : (c.writes.map Prod.fst).Nodup
  inRange : ∀ write ∈ c.writes, write.1 < c.rows * c.columns
  written : ∀ write ∈ c.writes, dense[write.1]? = some write.2
  zero : ∀ i < c.rows * c.columns, i ∉ c.writes.map Prod.fst → dense[i]? = some (F64.zero false)
  ordered : c.coordinates.Pairwise Before
  reads : c.ReadsInRange

end CandidateRepresentation

/-! ### Places. -/

variable {rows columns : Nat}

lemma mem_positions {cell : Nat × Nat} :
    cell ∈ positions rows columns ↔ cell.1 < rows ∧ cell.2 < columns := by
  obtain ⟨row, column⟩ := cell
  simp [positions]

lemma nodup_positions (rows columns : Nat) : (positions rows columns).Nodup :=
  Nodup.product nodup_range nodup_range

lemma index_lt {rows columns row column : Nat} (hrow : row < rows) (hcolumn : column < columns) :
    row * columns + column < rows * columns := by
  have hnext : (row + 1) * columns ≤ rows * columns := Nat.mul_le_mul_right _ hrow
  rw [Nat.add_mul, Nat.one_mul] at hnext
  omega

lemma index_inj {columns row column row' column' : Nat} (hcolumn : column < columns)
    (hcolumn' : column' < columns) (h : row * columns + column = row' * columns + column') :
    row = row' ∧ column = column' := by
  have hpos : 0 < columns := by omega
  have hdiv : (row * columns + column) / columns = row := by
    rw [Nat.mul_comm, Nat.mul_add_div hpos, Nat.div_eq_of_lt hcolumn, Nat.add_zero]
  have hdiv' : (row' * columns + column') / columns = row' := by
    rw [Nat.mul_comm, Nat.mul_add_div hpos, Nat.div_eq_of_lt hcolumn', Nat.add_zero]
  have hrow : row = row' := by rw [← hdiv, ← hdiv', h]
  subst hrow
  exact ⟨rfl, by omega⟩

lemma productOrMax_length {v : F64Vec} {a b : Nat} (h : v.length = productOrMax a b) :
    v.length = a * b := by
  have hlt := v.length_lt
  unfold productOrMax at h
  by_cases hfits : a * b < usizeValues
  · rw [if_pos hfits] at h
    exact h
  · rw [if_neg hfits] at h
    change v.values.length = _ at h
    simp only [usizeValues] at h
    omega

/-! ### Factors. -/

lemma foldlM_lowRankStep {columns rank : Nat} {left right : F64Vec} {cells : List (Nat × Nat)}
    {start dense : List F64}
    (h : cells.foldlM (lowRankStep columns rank left right) start = .ok dense) :
    dense = writeAll (cells.map (lowRankWrite columns rank left right)) start := by
  induction cells generalizing start with
  | nil =>
    cases h
    rfl
  | cons cell cells ih =>
    rw [foldlM_cons] at h
    obtain ⟨next, hstep, hrest⟩ := bind_ok.mp h
    unfold lowRankStep at hstep
    simp only [bind_ok, failIf_ok, pure_ok] at hstep
    obtain ⟨value, hvalue, -, -, rfl⟩ := hstep
    have hwrite : lowRankWrite columns rank left right cell =
        (cell.1 * columns + cell.2, value) := by
      unfold lowRankWrite lowRankValue
      rw [hvalue]
    rw [map_cons, writeAll_cons, hwrite]
    exact ih hrest

/-! ### Sparse entries. -/

lemma Before.trans {a b c : Nat × Nat} (hab : Before a b) (hbc : Before b c) : Before a c := by
  unfold Before at *
  omega

variable {previous last : Option (Nat × Nat)}

lemma foldlM_sparseStep {entries : List SparseEntry} {start dense : List F64}
    (h : entries.foldlM (sparseStep rows columns) (start, previous) = .ok (dense, last)) :
    dense = writeAll (entries.map (SparseEntry.write columns)) start ∧
      (∀ entry ∈ entries, entry.row < rows ∧ entry.column < columns) ∧
      (∀ prior ∈ previous, ∀ entry ∈ entries, Before prior entry.coordinate) ∧
      (entries.map SparseEntry.coordinate).Pairwise Before := by
  induction entries generalizing start previous with
  | nil =>
    cases h
    exact ⟨rfl, by simp, by simp, Pairwise.nil⟩
  | cons entry entries ih =>
    rw [foldlM_cons] at h
    obtain ⟨⟨next, place⟩, hstep, hrest⟩ := bind_ok.mp h
    unfold sparseStep at hstep
    simp only [bind_ok, failIf_ok, pure_ok, not_or, not_exists, not_and, not_le, not_not] at hstep
    obtain ⟨-, ⟨hrow, hcolumn, -, -, hafter⟩, heq⟩ := hstep
    cases heq
    obtain ⟨hdense, hranges, hbefore, hordered⟩ := ih hrest
    refine ⟨hdense, ?_, ?_, ?_⟩
    · exact forall_mem_cons.mpr ⟨⟨hrow, hcolumn⟩, hranges⟩
    · intro prior hprior
      have hfirst : Before prior entry.coordinate := hafter prior hprior
      exact forall_mem_cons.mpr ⟨hfirst, fun other hmem => hfirst.trans (hbefore _ rfl other hmem)⟩
    · rw [map_cons, pairwise_cons, forall_mem_map]
      exact ⟨hbefore _ rfl, hordered⟩

/-! ### Blocks. -/

def occupy (places : List Nat) (occupied : List Bool) : List Bool :=
  writeAll (places.map fun place => (place, true)) occupied

/-- Different places, none of which is taken. -/
def Free (occupied : List Bool) (places : List Nat) : Prop :=
  places.Nodup ∧ ∀ place ∈ places, occupied.getD place false = false

lemma getD_occupy {places : List Nat} {occupied : List Bool} {i : Nat}
    (hrange : ∀ place ∈ places, place < occupied.length) :
    (occupy places occupied).getD i false = (decide (i ∈ places) || occupied.getD i false) := by
  induction places generalizing occupied with
  | nil => simp [occupy]
  | cons place places ih =>
    have hplace : place < occupied.length := hrange place mem_cons_self
    have hset : occupy (place :: places) occupied = occupy places (occupied.set place true) := rfl
    rw [hset, ih (by
      intro other hother
      rw [length_set]
      exact hrange other (mem_cons_of_mem _ hother))]
    by_cases heq : i = place
    · subst heq
      have hwritten : (occupied.set i true).getD i false = true := by
        rw [getD_eq_getElem?_getD, getElem?_set_self hplace]
        rfl
      rw [hwritten]
      simp
    · have hkept : (occupied.set place true).getD i false = occupied.getD i false := by
        rw [getD_eq_getElem?_getD, getElem?_set_ne (Ne.symm heq), ← getD_eq_getElem?_getD]
      rw [hkept]
      simp [heq]

lemma Free.append {occupied : List Bool} {places more : List Nat}
    (hrange : ∀ place ∈ places, place < occupied.length) (h : Free occupied places)
    (hmore : Free (occupy places occupied) more) : Free occupied (places ++ more) := by
  have hnew : ∀ place ∈ more, place ∉ places ∧ occupied.getD place false = false := by
    intro place hplace
    have hfree := hmore.2 place hplace
    rw [getD_occupy hrange, Bool.or_eq_false_iff, decide_eq_false_iff_not] at hfree
    exact hfree
  refine ⟨nodup_append'.mpr ⟨h.1, hmore.1, ?_⟩, ?_⟩
  · intro place hplace hother
    exact (hnew place hother).1 hplace
  · intro place hplace
    rcases mem_append.mp hplace with hplace | hplace
    · exact h.2 place hplace
    · exact (hnew place hplace).2

variable {block : DenseBlock}

lemma foldlM_blockCell {columns : Nat} {cells : List (Nat × Nat)} {start dense : List F64}
    {occupied taken : List Bool}
    (hrange : ∀ cell ∈ cells, block.denseIndex columns cell < occupied.length)
    (h : cells.foldlM (blockCell columns block) (start, occupied) = .ok (dense, taken)) :
    Free occupied (cells.map (block.denseIndex columns)) ∧
      taken = occupy (cells.map (block.denseIndex columns)) occupied ∧
      dense = writeAll (cells.map fun cell => (block.denseIndex columns cell,
        block.values.get (cell.1 * block.columns + cell.2))) start := by
  induction cells generalizing start occupied with
  | nil =>
    cases h
    exact ⟨⟨nodup_nil, by simp⟩, rfl, rfl⟩
  | cons cell cells ih =>
    rw [foldlM_cons] at h
    obtain ⟨⟨next, place⟩, hstep, hrest⟩ := bind_ok.mp h
    unfold blockCell at hstep
    simp only [bind_ok, failIf_ok, pure_ok, Bool.not_eq_true] at hstep
    obtain ⟨-, hfree, heq⟩ := hstep
    cases heq
    have hplace := hrange cell mem_cons_self
    obtain ⟨hothers, htaken, hdense⟩ := ih (by
      intro other hother
      rw [length_set]
      exact hrange other (mem_cons_of_mem _ hother)) hrest
    refine ⟨?_, htaken, hdense⟩
    have hone : Free occupied [block.denseIndex columns cell] := by
      refine ⟨nodup_singleton _, ?_⟩
      intro place hmem
      rw [mem_singleton.mp hmem]
      exact hfree
    exact hone.append (by simpa using hplace) hothers

structure DenseBlock.Fits (block : DenseBlock) (rows columns : Nat) : Prop where
  rows_le : block.rowOffset + block.rows ≤ rows
  columns_le : block.columnOffset + block.columns ≤ columns
  length_eq : block.values.length = block.rows * block.columns

lemma DenseBlock.Fits.denseIndex_lt (h : block.Fits rows columns) {cell : Nat × Nat}
    (hcell : cell ∈ positions block.rows block.columns) :
    block.denseIndex columns cell < rows * columns := by
  obtain ⟨hrow, hcolumn⟩ := mem_positions.mp hcell
  have hrows := h.rows_le
  have hcolumns := h.columns_le
  unfold DenseBlock.denseIndex
  rw [Nat.add_assoc]
  apply index_lt
  · omega
  · omega

lemma DenseBlock.map_fst_writes (columns : Nat) (block : DenseBlock) :
    (block.writes columns).map Prod.fst =
      (positions block.rows block.columns).map (block.denseIndex columns) := by
  unfold DenseBlock.writes
  rw [map_map]
  rfl

lemma length_eq_of_saturated {v : F64Vec} {a b : Nat}
    (h : v.length = min (a * b) (usizeValues - 1)) : v.length = a * b := by
  have hlt : v.length < 2 ^ 60 := v.length_lt
  simp only [usizeValues] at h
  omega

/-- The loop over the blocks writes free places in range, block after block in strict order. -/
lemma foldlM_blockStep {rows columns : Nat} {blocks : List DenseBlock}
    {start dense : List F64} {occupied taken : List Bool} {previous last : Option (Nat × Nat)}
    (hlength : occupied.length = rows * columns)
    (h : blocks.foldlM (blockStep rows columns) ((start, occupied), previous) =
      .ok ((dense, taken), last)) :
    Free occupied ((blocks.flatMap (DenseBlock.writes columns)).map Prod.fst) ∧
      dense = writeAll (blocks.flatMap (DenseBlock.writes columns)) start ∧
      (∀ block ∈ blocks, block.Fits rows columns) ∧
      (∀ prior ∈ previous, ∀ block ∈ blocks, Before prior block.coordinate) ∧
      (blocks.map DenseBlock.coordinate).Pairwise Before := by
  induction blocks generalizing start occupied previous with
  | nil =>
    cases h
    exact ⟨⟨nodup_nil, by simp⟩, rfl, by simp, by simp, Pairwise.nil⟩
  | cons block blocks ih =>
    rw [foldlM_cons] at h
    obtain ⟨⟨⟨next, marked⟩, place⟩, hstep, hrest⟩ := bind_ok.mp h
    unfold blockStep at hstep
    simp only [bind_ok, failIf_ok, pure_ok, checkedAdd_ok, not_or, not_exists,
      not_and, not_lt, not_not, ne_eq] at hstep
    obtain ⟨rowEnd, ⟨-, rfl⟩, columnEnd, ⟨-, rfl⟩, -, ⟨-, -, hrows, hcolumns, hvalues, -, hafter⟩,
      written, hcells, heq⟩ := hstep
    cases heq
    have hfits : block.Fits rows columns := ⟨hrows, hcolumns, length_eq_of_saturated hvalues⟩
    have hrange : ∀ cell ∈ positions block.rows block.columns,
        block.denseIndex columns cell < occupied.length := by
      intro cell hcell
      rw [hlength]
      exact hfits.denseIndex_lt hcell
    obtain ⟨hfree, htaken, hnext⟩ := foldlM_blockCell hrange hcells
    have hmarked : marked.length = rows * columns := by
      rw [htaken, occupy, length_writeAll, hlength]
    obtain ⟨hothers, hdense, hall, hbefore, hordered⟩ := ih hmarked hrest
    refine ⟨?_, ?_, ?_, ?_, ?_⟩
    · rw [flatMap_cons, map_append, DenseBlock.map_fst_writes]
      apply hfree.append
      · intro index hindex
        obtain ⟨cell, hcell, rfl⟩ := mem_map.mp hindex
        exact hrange cell hcell
      · rw [← htaken]
        exact hothers
    · rw [flatMap_cons, writeAll_append]
      rw [hdense, hnext]
      rfl
    · exact forall_mem_cons.mpr ⟨hfits, hall⟩
    · intro prior hprior
      have hfirst : Before prior block.coordinate := hafter prior hprior
      exact forall_mem_cons.mpr ⟨hfirst, fun other hmem => hfirst.trans (hbefore _ rfl other hmem)⟩
    · rw [map_cons, pairwise_cons, forall_mem_map]
      exact ⟨hbefore _ rfl, hordered⟩

/-! ### What an accepted representation writes. -/

namespace CandidateRepresentation

lemma canonical_of_writes {c : CandidateRepresentation} {dense : List F64} {places : Nat}
    (hplaces : places = c.rows * c.columns)
    (hdense : dense = writeAll c.writes (replicate places (F64.zero false)))
    (honce : (c.writes.map Prod.fst).Nodup)
    (hrange : ∀ write ∈ c.writes, write.1 < c.rows * c.columns)
    (hordered : c.coordinates.Pairwise Before) (hreads : c.ReadsInRange) :
    c.Canonical dense where
  length_eq := by rw [hdense, length_writeAll, length_replicate, hplaces]
  once := honce
  inRange := hrange
  written := by
    intro write hwrite
    rw [hdense]
    apply getElem?_writeAll_of_mem honce hwrite
    rw [length_replicate, hplaces]
    exact hrange write hwrite
  zero := by
    intro i hi hother
    rw [hdense, getElem?_writeAll_of_not_mem hother, getElem?_replicate, hplaces, if_pos hi]
  ordered := hordered
  reads := hreads

lemma dense_canonical {rows columns : Nat} {weights : F64Vec}
    (hlength : weights.length = rows * columns) :
    (dense rows columns weights).Canonical weights.values := by
  have hwrites : (dense rows columns weights).writes = weights.values.zipIdx.map Prod.swap :=
    List.append_nil _
  have hplaces : (weights.values.zipIdx.map Prod.swap).map Prod.fst =
      List.range weights.values.length := by
    rw [List.map_map, show Prod.fst ∘ Prod.swap = (Prod.snd : F64 × Nat → Nat) from rfl,
      List.zipIdx_map_snd, List.range_eq_range']
  have hmem : ∀ write ∈ weights.values.zipIdx.map Prod.swap,
      weights.values[write.1]? = some write.2 := by
    intro write hwrite
    obtain ⟨⟨value, i⟩, hentry, rfl⟩ := List.mem_map.mp hwrite
    exact List.mem_zipIdx_iff_getElem?.mp hentry
  refine ⟨hlength, ?_, ?_, ?_, ?_, List.Pairwise.nil, trivial⟩
  · rw [hwrites, hplaces]
    exact List.nodup_range
  · intro write hwrite
    rw [hwrites] at hwrite
    obtain ⟨hlt, -⟩ := List.getElem?_eq_some_iff.mp (hmem write hwrite)
    exact hlt.trans_eq hlength
  · intro write hwrite
    rw [hwrites] at hwrite
    exact hmem write hwrite
  · intro i hi hother
    rw [hwrites, hplaces, List.mem_range] at hother
    exact absurd (hi.trans_eq hlength.symm) hother

/-- What an accepted representation writes: each cell at most once and in range, the rest
    zeros, from entries or blocks in strict order. -/
lemma materializeDense_canonical {c : CandidateRepresentation} {dense : List F64}
    (h : c.materializeDense = .ok dense) : c.Canonical dense := by
  unfold materializeDense at h
  simp only [bind_ok, failIf_ok, checkedMul_ok] at h
  obtain ⟨places, ⟨-, hplaces⟩, -, -, h⟩ := h
  cases c with
  | dense rows columns weights =>
    simp only [bind_ok, failIf_ok, checkedMul_ok, pure_ok, not_or, ne_eq, not_not] at h
    obtain ⟨expected, ⟨-, rfl⟩, -, ⟨hlength, -⟩, rfl⟩ := h
    exact dense_canonical hlength
  | lowRank rows columns rank left right =>
    simp only [bind_ok, failIf_ok, not_or, ne_eq, not_not] at h
    obtain ⟨-, ⟨-, hleft, hright, -, -⟩, hloop⟩ := h
    have hwrites : (lowRank rows columns rank left right).writes =
        (positions rows columns).map (lowRankWrite columns rank left right) :=
      append_nil _
    refine canonical_of_writes hplaces ?_ ?_ ?_ Pairwise.nil ?_
    · rw [hwrites]
      exact foldlM_lowRankStep hloop
    · rw [hwrites, map_map]
      apply Nodup.map_on _ (nodup_positions rows columns)
      intro a ha b hb heq
      have hinj := index_inj (mem_positions.mp ha).2 (mem_positions.mp hb).2 heq
      exact Prod.ext hinj.1 hinj.2
    · intro write hwrite
      rw [hwrites] at hwrite
      obtain ⟨cell, hcell, rfl⟩ := mem_map.mp hwrite
      obtain ⟨hrow, hcolumn⟩ := mem_positions.mp hcell
      exact index_lt hrow hcolumn
    · intro row hrow column hcolumn component hcomponent
      rw [productOrMax_length hleft, productOrMax_length hright]
      exact ⟨index_lt hrow hcomponent, index_lt hcomponent hcolumn⟩
  | sparse rows columns entries =>
    simp only [bind_ok, pure_ok] at h
    obtain ⟨⟨written, last⟩, hloop, rfl⟩ := h
    obtain ⟨hdense, hranges, -, hordered⟩ := foldlM_sparseStep hloop
    have hwrites : (sparse rows columns entries).writes =
        entries.map (SparseEntry.write columns) := by
      unfold writes parts
      rw [← flatMap_def, map_eq_flatMap]
    refine canonical_of_writes hplaces ?_ ?_ ?_ hordered trivial
    · rw [hwrites]
      exact hdense
    · rw [hwrites, map_map]
      have hdistinct : entries.Pairwise fun a b => Before a.coordinate b.coordinate :=
        pairwise_map.mp hordered
      apply pairwise_map.mpr
      apply hdistinct.imp_of_mem
      intro a b ha hb hbefore heq
      obtain ⟨hrow, hcolumn⟩ := index_inj (hranges a ha).2 (hranges b hb).2 heq
      unfold Before SparseEntry.coordinate at hbefore
      omega
    · intro write hwrite
      rw [hwrites] at hwrite
      obtain ⟨entry, hentry, rfl⟩ := mem_map.mp hwrite
      exact index_lt (hranges entry hentry).1 (hranges entry hentry).2
  | block rows columns blocks =>
    simp only [bind_ok, pure_ok] at h
    obtain ⟨⟨⟨written, taken⟩, last⟩, hloop, rfl⟩ := h
    have hlength : (replicate places false).length = rows * columns := by
      rw [length_replicate]
      exact hplaces
    obtain ⟨hfree, hdense, hfits, -, hordered⟩ := foldlM_blockStep hlength hloop
    have hwrites : (block rows columns blocks).writes =
        blocks.flatMap (DenseBlock.writes columns) := flatMap_def.symm
    refine canonical_of_writes hplaces ?_ ?_ ?_ hordered ?_
    · rw [hwrites]
      exact hdense
    · rw [hwrites]
      exact hfree.1
    · intro write hwrite
      rw [hwrites] at hwrite
      obtain ⟨b, hb, hmem⟩ := mem_flatMap.mp hwrite
      obtain ⟨cell, hcell, rfl⟩ := mem_map.mp hmem
      exact (hfits b hb).denseIndex_lt hcell
    · intro b hb cell hcell
      obtain ⟨hrow, hcolumn⟩ := mem_positions.mp hcell
      rw [(hfits b hb).length_eq]
      exact index_lt hrow hcolumn

end CandidateRepresentation

/-! ## Reading the frame back -/

/-- The bytes of a list of doubles: their number and their words. -/
def sliceBytes (values : List F64) : ByteArray :=
  Lib.be64 values.length ++ joined (values.map fun value => Lib.be64 value.bits)

def SparseEntry.bytes (entry : SparseEntry) : ByteArray :=
  Lib.be64 entry.row ++ (Lib.be64 entry.column ++ Lib.be64 entry.value.bits)

def DenseBlock.bytes (block : DenseBlock) : ByteArray :=
  Lib.be64 block.rowOffset ++ (Lib.be64 block.columnOffset ++ (Lib.be64 block.rows ++
    (Lib.be64 block.columns ++ sliceBytes block.values.values)))

def SparseEntry.Words (entry : SparseEntry) : Prop :=
  entry.row < usizeValues ∧ entry.column < usizeValues

def DenseBlock.Words (block : DenseBlock) : Prop :=
  block.rowOffset < usizeValues ∧ block.columnOffset < usizeValues ∧ block.rows < usizeValues ∧
    block.columns < usizeValues

namespace CandidateRepresentation

def tag : CandidateRepresentation → UInt8
  | .lowRank _ _ _ _ _ => 0
  | .dense _ _ _ => 1
  | .sparse _ _ _ => 2
  | .block _ _ _ => 3

def data : CandidateRepresentation → ByteArray
  | .lowRank _ _ rank left right =>
    Lib.be64 rank ++ (sliceBytes left.values ++ sliceBytes right.values)
  | .dense _ _ weights => sliceBytes weights.values
  | .sparse _ _ entries => Lib.be64 entries.length ++ joined (entries.map SparseEntry.bytes)
  | .block _ _ blocks => Lib.be64 blocks.length ++ joined (blocks.map DenseBlock.bytes)

def Words : CandidateRepresentation → Prop
  | .lowRank rows columns rank _ _ =>
    rows < usizeValues ∧ columns < usizeValues ∧ rank < usizeValues
  | .dense rows columns _ => rows < usizeValues ∧ columns < usizeValues
  | .sparse rows columns entries =>
    rows < usizeValues ∧ columns < usizeValues ∧ entries.length < usizeValues ∧
      ∀ entry ∈ entries, entry.Words
  | .block rows columns blocks =>
    rows < usizeValues ∧ columns < usizeValues ∧ blocks.length < usizeValues ∧
      ∀ block ∈ blocks, block.Words

end CandidateRepresentation

/-! ### What is appended. -/

lemma appendUsize_ok {frame bytes : ByteArray} {value : Nat} {label : String} :
    appendUsize frame value label = .ok bytes ↔
      value < usizeValues ∧ bytes = frame ++ Lib.be64 value := by
  unfold appendUsize
  simp only [bind_ok, failIf_ok, pure_ok, not_le, exists_const]
  rw [eq_comm]

lemma foldlM_append {α : Type} {step : ByteArray → α → BrainResult ByteArray}
    {bytes : α → ByteArray} {p : α → Prop}
    (hstep : ∀ frame a next, step frame a = .ok next → p a ∧ next = frame ++ bytes a)
    {items : List α} {frame last : ByteArray} (h : items.foldlM step frame = .ok last) :
    (∀ a ∈ items, p a) ∧ last = frame ++ joined (items.map bytes) := by
  induction items generalizing frame with
  | nil =>
    cases h
    simp
  | cons a items ih =>
    rw [foldlM_cons] at h
    obtain ⟨next, hfirst, hrest⟩ := bind_ok.mp h
    obtain ⟨ha, rfl⟩ := hstep frame a next hfirst
    obtain ⟨hall, rfl⟩ := ih hrest
    refine ⟨?_, ?_⟩
    · exact forall_mem_cons.mpr ⟨ha, hall⟩
    · rw [map_cons, joined_cons, ByteArray.append_assoc]

lemma appendF64Slice_ok {frame last : ByteArray} {values : List F64} {label : String}
    (h : appendF64Slice frame values label = .ok last) :
    values.length < usizeValues ∧ last = frame ++ sliceBytes values := by
  unfold appendF64Slice at h
  obtain ⟨next, hcount, hrest⟩ := bind_ok.mp h
  obtain ⟨hlength, rfl⟩ := appendUsize_ok.mp hcount
  have hstep : ∀ (frame : ByteArray) (value : F64) (next : ByteArray),
      (do failIf (¬value.isFinite) (invalid s!"solver_{label}_nonfinite")
          return appendBits frame value : BrainResult ByteArray) = .ok next →
        True ∧ next = frame ++ Lib.be64 value.bits := by
    intro frame value next hnext
    simp only [bind_ok, failIf_ok, pure_ok] at hnext
    obtain ⟨-, -, rfl⟩ := hnext
    exact ⟨trivial, rfl⟩
  obtain ⟨-, rfl⟩ := foldlM_append hstep hrest
  refine ⟨hlength, ?_⟩
  unfold sliceBytes
  rw [ByteArray.append_assoc]

lemma appendEntry_ok {frame next : ByteArray} {entry : SparseEntry}
    (h : appendEntry frame entry = .ok next) : entry.Words ∧ next = frame ++ entry.bytes := by
  unfold appendEntry at h
  simp only [bind_ok, appendUsize_ok, pure_ok] at h
  obtain ⟨_, ⟨hrow, rfl⟩, _, ⟨hcolumn, rfl⟩, rfl⟩ := h
  refine ⟨⟨hrow, hcolumn⟩, ?_⟩
  unfold appendBits SparseEntry.bytes
  simp only [ByteArray.append_assoc]

lemma appendBlock_ok {frame next : ByteArray} (h : appendBlock frame block = .ok next) :
    block.Words ∧ next = frame ++ block.bytes := by
  unfold appendBlock at h
  simp only [bind_ok, appendUsize_ok] at h
  obtain ⟨_, ⟨hrowOffset, rfl⟩, _, ⟨hcolumnOffset, rfl⟩, _, ⟨hrows, rfl⟩, _, ⟨hcolumns, rfl⟩,
    h⟩ := h
  obtain ⟨-, rfl⟩ := appendF64Slice_ok h
  refine ⟨⟨hrowOffset, hcolumnOffset, hrows, hcolumns⟩, ?_⟩
  unfold DenseBlock.bytes
  simp only [ByteArray.append_assoc]

namespace CandidateRepresentation

lemma frame_ok {c : CandidateRepresentation} {bytes : ByteArray} (h : c.frame = .ok bytes) :
    c.Words ∧ bytes = Lib.be64 c.rows ++ (Lib.be64 c.columns ++ (mark c.tag ++ c.data)) := by
  unfold frame at h
  simp only [bind_ok, appendUsize_ok] at h
  obtain ⟨_, ⟨hrows, rfl⟩, _, ⟨hcolumns, rfl⟩, h⟩ := h
  rw [ByteArray.empty_append] at h
  cases c with
  | lowRank rows columns rank left right =>
    simp only [bind_ok, appendUsize_ok] at h
    obtain ⟨_, ⟨hrank, rfl⟩, middle, hleft, hright⟩ := h
    obtain ⟨-, rfl⟩ := appendF64Slice_ok hleft
    obtain ⟨-, rfl⟩ := appendF64Slice_ok hright
    refine ⟨⟨hrows, hcolumns, hrank⟩, ?_⟩
    simp only [tag, data, ByteArray.append_assoc]
  | dense rows columns weights =>
    obtain ⟨-, rfl⟩ := appendF64Slice_ok h
    refine ⟨⟨hrows, hcolumns⟩, ?_⟩
    simp only [tag, data, ByteArray.append_assoc]
  | sparse rows columns entries =>
    simp only [bind_ok, appendUsize_ok] at h
    obtain ⟨_, ⟨hcount, rfl⟩, hentries⟩ := h
    obtain ⟨hwords, rfl⟩ := foldlM_append (fun _ _ _ hstep => appendEntry_ok hstep) hentries
    refine ⟨⟨hrows, hcolumns, hcount, hwords⟩, ?_⟩
    simp only [tag, data, ByteArray.append_assoc]
  | block rows columns blocks =>
    simp only [bind_ok, appendUsize_ok] at h
    obtain ⟨_, ⟨hcount, rfl⟩, hblocks⟩ := h
    obtain ⟨hwords, rfl⟩ := foldlM_append (fun _ _ _ hstep => appendBlock_ok hstep) hblocks
    refine ⟨⟨hrows, hcolumns, hcount, hwords⟩, ?_⟩
    simp only [tag, data, ByteArray.append_assoc]

end CandidateRepresentation

/-! ### What is read off the front. -/

variable {x y : ByteArray}

lemma bits_append_inj {v w : F64} (h : Lib.be64 v.bits ++ x = Lib.be64 w.bits ++ y) :
    v = w ∧ x = y := by
  obtain ⟨hbits, hrest⟩ := be64_append_inj v.lt w.lt h
  refine ⟨?_, hrest⟩
  cases v
  cases w
  simp only [F64.mk.injEq]
  exact hbits

lemma sliceBytes_append_inj {v w : F64Vec}
    (h : sliceBytes v.values ++ x = sliceBytes w.values ++ y) : v = w ∧ x = y := by
  have hv : v.values.length < 2 ^ 64 := v.length_lt.trans (by decide)
  have hw : w.values.length < 2 ^ 64 := w.length_lt.trans (by decide)
  unfold sliceBytes at h
  rw [ByteArray.append_assoc, ByteArray.append_assoc] at h
  obtain ⟨hlength, hwords⟩ := be64_append_inj hv hw h
  obtain ⟨hvalues, hrest⟩ := joined_map_append_inj (p := fun _ => True)
    (fun _ _ _ _ _ _ hread => bits_append_inj hread) (fun _ _ => trivial) (fun _ _ => trivial)
    hlength hwords
  refine ⟨?_, hrest⟩
  cases v
  cases w
  simp only [F64Vec.mk.injEq]
  exact hvalues

lemma SparseEntry.bytes_append_inj {a b : SparseEntry} (ha : a.Words) (hb : b.Words)
    (h : a.bytes ++ x = b.bytes ++ y) : a = b ∧ x = y := by
  unfold SparseEntry.bytes at h
  simp only [ByteArray.append_assoc] at h
  obtain ⟨hrow, h⟩ := be64_append_inj ha.1 hb.1 h
  obtain ⟨hcolumn, h⟩ := be64_append_inj ha.2 hb.2 h
  obtain ⟨hvalue, hrest⟩ := bits_append_inj h
  refine ⟨?_, hrest⟩
  cases a
  cases b
  simp only [SparseEntry.mk.injEq]
  exact ⟨hrow, hcolumn, hvalue⟩

lemma DenseBlock.bytes_append_inj {a b : DenseBlock} (ha : a.Words) (hb : b.Words)
    (h : a.bytes ++ x = b.bytes ++ y) : a = b ∧ x = y := by
  obtain ⟨haRow, haColumn, haRows, haColumns⟩ := ha
  obtain ⟨hbRow, hbColumn, hbRows, hbColumns⟩ := hb
  unfold DenseBlock.bytes at h
  simp only [ByteArray.append_assoc] at h
  obtain ⟨hrowOffset, h⟩ := be64_append_inj haRow hbRow h
  obtain ⟨hcolumnOffset, h⟩ := be64_append_inj haColumn hbColumn h
  obtain ⟨hrows, h⟩ := be64_append_inj haRows hbRows h
  obtain ⟨hcolumns, h⟩ := be64_append_inj haColumns hbColumns h
  obtain ⟨hvalues, hrest⟩ := sliceBytes_append_inj h
  refine ⟨?_, hrest⟩
  cases a
  cases b
  simp only [DenseBlock.mk.injEq]
  exact ⟨hrowOffset, hcolumnOffset, hrows, hcolumns, hvalues⟩

lemma mark_append_inj {a b : UInt8} (h : mark a ++ x = mark b ++ y) : a = b ∧ x = y := by
  obtain ⟨hmark, hrest⟩ := append_inj_of_size (a := mark a) (b := mark b) rfl h
  have hdata := congrArg (fun bytes : ByteArray => bytes.data[0]?) hmark
  exact ⟨by simpa [mark] using hdata, hrest⟩

namespace CandidateRepresentation

variable {c : CandidateRepresentation}

lemma Words.rows_lt (h : c.Words) : c.rows < usizeValues := by
  cases c <;> exact h.1

lemma Words.columns_lt (h : c.Words) : c.columns < usizeValues := by
  cases c with
  | dense rows columns weights => exact h.2
  | _ => exact h.2.1

variable {c c' : CandidateRepresentation}

lemma data_injective (hc : c.Words) (hc' : c'.Words) (hrows : c.rows = c'.rows)
    (hcolumns : c.columns = c'.columns) (htag : c.tag = c'.tag) (hdata : c.data = c'.data) :
    c = c' := by
  have h : c.data ++ ByteArray.empty = c'.data ++ ByteArray.empty := by rw [hdata]
  cases c with
  | lowRank rows columns rank left right =>
    cases c' with
    | lowRank rows' columns' rank' left' right' =>
      simp only [data, ByteArray.append_assoc] at h
      obtain ⟨hrank, h⟩ := be64_append_inj hc.2.2 hc'.2.2 h
      obtain ⟨hleft, h⟩ := sliceBytes_append_inj h
      obtain ⟨hright, -⟩ := sliceBytes_append_inj h
      simp only [lowRank.injEq]
      exact ⟨hrows, hcolumns, hrank, hleft, hright⟩
    | _ => simp [tag] at htag
  | dense rows columns weights =>
    cases c' with
    | dense rows' columns' weights' =>
      obtain ⟨hweights, -⟩ := sliceBytes_append_inj h
      simp only [dense.injEq]
      exact ⟨hrows, hcolumns, hweights⟩
    | _ => simp [tag] at htag
  | sparse rows columns entries =>
    cases c' with
    | sparse rows' columns' entries' =>
      simp only [data, ByteArray.append_assoc] at h
      obtain ⟨hcount, h⟩ := be64_append_inj hc.2.2.1 hc'.2.2.1 h
      obtain ⟨hentries, -⟩ := joined_map_append_inj
        (fun _ _ _ _ ha hb hread => SparseEntry.bytes_append_inj ha hb hread)
        hc.2.2.2 hc'.2.2.2 hcount h
      simp only [sparse.injEq]
      exact ⟨hrows, hcolumns, hentries⟩
    | _ => simp [tag] at htag
  | block rows columns blocks =>
    cases c' with
    | block rows' columns' blocks' =>
      simp only [data, ByteArray.append_assoc] at h
      obtain ⟨hcount, h⟩ := be64_append_inj hc.2.2.1 hc'.2.2.1 h
      obtain ⟨hblocks, -⟩ := joined_map_append_inj
        (fun _ _ _ _ ha hb hread => DenseBlock.bytes_append_inj ha hb hread)
        hc.2.2.2 hc'.2.2.2 hcount h
      simp only [block.injEq]
      exact ⟨hrows, hcolumns, hblocks⟩
    | _ => simp [tag] at htag

/-- The frame of a representation is decodable: equal frames have equal variants, fields
    and words. -/
lemma frame_injective {bytes : ByteArray} (h : c.frame = .ok bytes) (h' : c'.frame = .ok bytes) :
    c = c' := by
  obtain ⟨hwords, hbytes⟩ := frame_ok h
  obtain ⟨hwords', hbytes'⟩ := frame_ok h'
  rw [hbytes] at hbytes'
  obtain ⟨hrows, hrest⟩ := be64_append_inj hwords.rows_lt hwords'.rows_lt hbytes'
  obtain ⟨hcolumns, hrest⟩ := be64_append_inj hwords.columns_lt hwords'.columns_lt hrest
  obtain ⟨htag, hdata⟩ := mark_append_inj hrest
  exact data_injective hwords hwords' hrows hcolumns htag hdata

def hashed (c : CandidateRepresentation) : Set ByteArray :=
  {bytes | ∃ frame, c.frame = .ok frame ∧ bytes = exactCandidateDomain.toByteArray ++ frame}

variable {digest : ExactSolverCandidateDigest}

lemma exactDigest_ok [Platform] (h : c.exactDigest = .ok digest) :
    (∃ dense, c.materializeDense = .ok dense) ∧ ∃ frame, c.frame = .ok frame ∧
      digest.raw = Platform.sha256 (exactCandidateDomain.toByteArray ++ frame) := by
  unfold exactDigest at h
  simp only [bind_ok, failIf_ok, pure_ok] at h
  obtain ⟨_, -, -, -, dense, hdense, frame, hframe, rfl⟩ := h
  exact ⟨⟨dense, hdense⟩, frame, hframe, rfl⟩

/-- Where the hash does not collide on what is hashed, one identity has one representation. -/
lemma eq_of_exactDigest [Platform] {frames : Set ByteArray}
    (hinjective : Set.InjOn Platform.sha256 frames) (hc : c.hashed ⊆ frames)
    (hc' : c'.hashed ⊆ frames) (h : c.exactDigest = .ok digest) (h' : c'.exactDigest = .ok digest) :
    c = c' := by
  obtain ⟨-, frame, hframe, hdigest⟩ := exactDigest_ok h
  obtain ⟨-, frame', hframe', hdigest'⟩ := exactDigest_ok h'
  have hsame : exactCandidateDomain.toByteArray ++ frame =
      exactCandidateDomain.toByteArray ++ frame' := by
    apply hinjective
    · exact hc ⟨frame, hframe, rfl⟩
    · exact hc' ⟨frame', hframe', rfl⟩
    · rw [← hdigest, ← hdigest']
  obtain ⟨-, hframes⟩ := append_inj_of_size rfl hsame
  rw [← hframes] at hframe'
  exact frame_injective hframe hframe'

end CandidateRepresentation

open CandidateRepresentation in
/-- **Candidate representations are canonical.** -/
theorem candidate_representations_canonical [Platform] :
    (∀ (c : CandidateRepresentation) (dense : List F64),
      c.materializeDense = .ok dense → c.Canonical dense) ∧
    (∀ (c c' : CandidateRepresentation) (bytes : ByteArray),
      c.frame = .ok bytes → c'.frame = .ok bytes → c = c') ∧
    (∀ (c c' : CandidateRepresentation) (digest : ExactSolverCandidateDigest),
      Set.InjOn Platform.sha256 (c.hashed ∪ c'.hashed) →
      c.exactDigest = .ok digest → c'.exactDigest = .ok digest → c = c') := by
  refine ⟨?_, ?_, ?_⟩
  · intro c dense h
    exact materializeDense_canonical h
  · intro c c' bytes h h'
    exact frame_injective h h'
  · intro c c' digest hinjective h h'
    exact eq_of_exactDigest hinjective Set.subset_union_left Set.subset_union_right h h'

/-! ## Two blocks -/

namespace CandidateSample

def unitVec : F64Vec := ⟨[F64.ofNat 1, F64.ofNat 2], by decide⟩

def blocks : CandidateRepresentation :=
  .block 2 3 [⟨0, 1, 1, 2, unitVec⟩, ⟨1, 0, 1, 2, unitVec⟩]

def written : List F64 :=
  [F64.zero false, F64.ofNat 1, F64.ofNat 2, F64.ofNat 1, F64.ofNat 2, F64.zero false]

lemma blocks_materialize : blocks.materializeDense = .ok written := by
  have hreturns : returns blocks.materializeDense (· = written) = true := by decide +kernel
  obtain ⟨dense, hdense, heq⟩ := returns_iff.mp hreturns
  rw [hdense, of_decide_eq_true heq]

attribute [local instance] Platform.reference in
/-- What the two blocks write. -/
theorem blocks_canonical : blocks.Canonical written :=
  candidate_representations_canonical.1 blocks written blocks_materialize

end CandidateSample

end Tidex.Solver
