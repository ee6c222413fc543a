/-
  Learning.Target — learning targets and their candidate apertures.

  A target names capabilities and how many apertures to plan for.
-/
import Tidex.Analysis.Active
import Tidex.Lib.Decimal

namespace Tidex.Learning

open Tidex.Lib Tidex.Analysis

/-! ## Targets -/

structure LearningTarget (K : Type) where
  targetId : LearningTargetId
  capabilityIds : List CapabilityId
  candidateBudget : Nat
  planSteps : Nat
  noiseVariance : K
  costWeight : K
  riskWeight : K
  candidateBudget_lt : candidateBudget < 2 ^ 64
  planSteps_lt : planSteps < 2 ^ 64

variable {K : Type} [Scalar K]

def validateTarget (target : LearningTarget K) : BrainResult Unit := do
  failIf (target.capabilityIds.length < 2
      ∨ target.capabilityIds.length > 256
      ∨ target.candidateBudget < target.capabilityIds.length
      ∨ target.planSteps < target.capabilityIds.length
      ∨ target.planSteps > target.candidateBudget
      ∨ ¬Scalar.isFinite target.noiseVariance
      ∨ Scalar.le target.noiseVariance 0
      ∨ ¬Scalar.isFinite target.costWeight
      ∨ Scalar.lt target.costWeight 0
      ∨ ¬Scalar.isFinite target.riskWeight
      ∨ Scalar.lt target.riskWeight 0)
    (invalid "learning_target_invalid")
  failIf (¬target.capabilityIds.Nodup) (invalid "learning_target_capability_identity_invalid")

/-! ## Directions -/

/-- A vector of ones at some positions. -/
def directionOf (dimension : Nat) (indices : List Nat) : List K :=
  indices.foldl (fun direction index => direction.set index 1) (List.replicate dimension 0)

/-- Which entries of a vector are more than rounding noise. -/
def candidateKey (weights : List K) : List Bool :=
  weights.map fun value => Scalar.lt (Scalar.lit 1 12) (Scalar.abs value)

def normalized (values : List K) : BrainResult (List K) := do
  let magnitude ← norm values
  failIf (¬Scalar.isFinite magnitude ∨ Scalar.le magnitude (Scalar.lit 1 15))
    (invalid "learning_aperture_zero_direction")
  return values.map (· / magnitude)

def isolateId (index : Nat) : String :=
  "isolate-" ++ String.ofList (padDecimal 3 index)

def pairId (left right : Nat) : String :=
  "pair-" ++ String.ofList (padDecimal 3 left ++ '-' :: padDecimal 3 right)

def mixedId (count : Nat) : String :=
  "mixed-" ++ String.ofList (padDecimal 4 count)

/-! ## The generator -/

/-- An aperture before its direction is normalized. -/
structure CandidateRow (K : Type) where
  apertureId : ApertureId
  direction : List K
  cost : K
  risk : K

/-- The rows so far, in order, and the keys that were seen. -/
structure Generation (K : Type) where
  rows : List (CandidateRow K)
  seen : List (List Bool)

namespace Generation

def insertKey (g : Generation K) (key : List Bool) : List (List Bool) :=
  if key ∈ g.seen then g.seen else key :: g.seen

def push (g : Generation K) (name : String) (indices : List Nat) (dimension : Nat)
    (cost risk : K) : BrainResult (Generation K) := do
  let apertureId ← Name.parse .aperture name
  let direction := directionOf dimension indices
  return { rows := g.rows ++ [⟨apertureId, direction, cost, risk⟩]
           seen := g.insertKey (candidateKey direction) }

end Generation

def isolateStep (dimension : Nat) (g : Generation K) (index : Nat) :
    BrainResult (Generation K) :=
  g.push (isolateId index) [index] dimension (Scalar.lit 4 0) (Scalar.lit 2 2)

/-- One aperture for two capabilities, while the budget lasts. -/
def pairStep (target : LearningTarget K) (g : Generation K) (pair : Nat × Nat) :
    BrainResult (Generation K) :=
  let dimension := target.capabilityIds.length
  if g.rows.length ≥ target.candidateBudget then .ok g
  else if candidateKey (directionOf dimension [pair.1, pair.2] : List K) ∈ g.seen then .ok g
  else g.push (pairId pair.1 pair.2) [pair.1, pair.2] dimension (Scalar.lit 8 1) (Scalar.lit 3 2)

/-- All pairs of positions, the left one first. -/
def pairs (dimension : Nat) : List (Nat × Nat) :=
  (List.range dimension).flatMap fun left =>
    (List.range' (left + 1) (dimension - (left + 1))).map fun right => (left, right)

def nextRandom (state : Nat) : Nat :=
  (state * 6364136223846793005 + 1442695040888963407) % 2 ^ 64

/-- The bytes of a machine word, the highest first. -/
def beBytes (n : Nat) : ByteArray :=
  ⟨((List.range 8).map fun i => (n / 256 ^ (7 - i)).toUInt8).toArray⟩

/-- The value of a lower-case hexadecimal digit. -/
def hexValue (c : Char) : Nat :=
  if c.isDigit then c.toNat - 48 else c.toNat - 87

def leadingWord (d : Sha256Digest) : Nat :=
  (d.hex.toList.take 16).foldl (fun n c => 16 * n + hexValue c) 0

def stableU64 [Platform] (targetId : String) (counter : Nat) : Nat :=
  leadingWord (Sha256Digest.digestBytes
    ("TIDEX:LEARNING-APERTURE-SEED:v1\x00".toByteArray ++ targetId.toByteArray ++ beBytes counter))

/-- Two positions of a list exchanged. -/
def swap (indices : List Nat) (i j : Nat) : List Nat :=
  (indices.set i (indices.getD j 0)).set j (indices.getD i 0)

/-- One exchange of the shuffle, with the state of the generator. -/
def shuffleStep (acc : Nat × List Nat) (index : Nat) : Nat × List Nat :=
  let state := nextRandom acc.1
  (state, swap acc.2 index (state % (index + 1)))

def shuffle (state dimension : Nat) : List Nat :=
  ((List.range' 1 (dimension - 1)).reverse.foldl shuffleStep (state, List.range dimension)).2

/-- How many positions a draw takes, and which. -/
def drawIndices [Platform] (target : LearningTarget K) (counter : Nat) : List Nat :=
  let dimension := target.capabilityIds.length
  let state := nextRandom (stableU64 target.targetId.asStr counter)
  let desired := min (2 + state % max (dimension - 1) 1) dimension
  (shuffle state dimension).take desired

/-- The number of subsets after which a repeated draw ends the generation. -/
def exhaustion (dimension : Nat) : Nat := 2 ^ min dimension 20 - 1

/-- One draw: nothing where the generation ends, and the next generation otherwise. -/
def mixedStep [Platform] (target : LearningTarget K) (counter : Nat) (g : Generation K) :
    BrainResult (Option (Generation K)) := do
  let dimension := target.capabilityIds.length
  let indices := drawIndices target counter
  if candidateKey (directionOf dimension indices : List K) ∈ g.seen then
    return if g.seen.length ≥ exhaustion dimension then none else some g
  let desired : K := Scalar.lit indices.length 0
  let g ← g.push (mixedId g.rows.length) indices dimension
    (Scalar.lit 65 2 + Scalar.lit 4 2 * desired)
    (Scalar.min (Scalar.lit 2 2 + Scalar.lit 5 3 * desired) (Scalar.lit 25 2))
  return some g

/-- The draws, as many as the fuel allows; nothing where more are needed. -/
def mixedLoop [Platform] (target : LearningTarget K) :
    Nat → Nat → Generation K → Option (BrainResult (Generation K))
  | 0, _, _ => none
  | fuel + 1, counter, g =>
    if g.rows.length < target.candidateBudget then
      match mixedStep target counter g with
      | .error e => some (.error e)
      | .ok none => some (.ok g)
      | .ok (some g) => mixedLoop target fuel ((counter + 1) % 2 ^ 64) g
    else some (.ok g)

def startRows (target : LearningTarget K) : BrainResult (Generation K) := do
  let dimension := target.capabilityIds.length
  let g ← (List.range dimension).foldlM (isolateStep dimension) ⟨[], []⟩
  (pairs dimension).foldlM (pairStep target) g

def toCandidate (target : LearningTarget K) (row : CandidateRow K) :
    BrainResult (ApertureCandidate K) := do
  let sensingVector ← normalized row.direction
  return { apertureId := row.apertureId
           sensingVector := sensingVector
           noiseVariance := target.noiseVariance
           cost := row.cost
           risk := row.risk }

def generateCandidates [Platform] (fuel : Nat) (target : LearningTarget K) :
    Option (BrainResult (List (ApertureCandidate K))) :=
  match validateTarget target >>= fun _ => startRows target with
  | .error e => some (.error e)
  | .ok g => (mixedLoop target fuel 0 g).map fun result =>
    result >>= fun g => g.rows.mapM (toCandidate target)

end Tidex.Learning
