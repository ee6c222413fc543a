/-
  Analysis.Topology — the topology of a cloud of points.
-/
import Tidex.Foundation.Cosine
import Tidex.Lib.UnionFind

namespace Tidex.Analysis

open Tidex.Lib Tidex.Lib.UnionFind List Option Scalar

/-! ## The report -/

structure TopologicalManifoldReport (K : Type) where
  schema : String
  sampleCount : Nat
  featureDim : Nat
  betti0Components : Nat
  betti1Cycles : Nat
  meanPersistenceLifetime : K
  topologicalHomotopyScore : K
  persistencePairs0 : List (K × K)
  persistencePairs1 : List (K × K)
  totalPersistence0 : K
  totalPersistence1 : K
  maxPersistenceLifetime : K

section

variable {K : Type} [Scalar K]

/-- The Euclidean distance of two points. -/
def pairDistance (left right : List K) : K :=
  Scalar.sqrt (sumFrom 0 (List.zipWith (fun left right => (left - right) * (left - right)) left right))

/-- All pairs of positions, the smaller one first, in the order of the loops. -/
def vertexPairs (n : Nat) : List (Fin n × Fin n) :=
  (List.finRange n).flatMap fun i => ((List.finRange n).filter (i < ·)).map fun j => (i, j)

/-- All triples of positions in ascending order. -/
def vertexTriples (n : Nat) : List (Fin n × Fin n × Fin n) :=
  (vertexPairs n).flatMap fun e => ((List.finRange n).filter (e.2 < ·)).map fun k => (e.1, e.2, k)

/-! ## The scan at a threshold -/

structure ThresholdScan (n : Nat) (K : Type) where
  parent : Fin n → Fin n
  edgeCount : Nat
  lifetimes : List K

variable {n : Nat}

/-- One pair: within the threshold it counts, and its lifetime does where it joins. -/
def thresholdStep (dist : Fin n → Fin n → K) (threshold : K) (s : ThresholdScan n K)
    (e : Fin n × Fin n) : Option (ThresholdScan n K) :=
  if Scalar.le (dist e.1 e.2) threshold then do
    let (joins, parent) ← connect s.parent e.1 e.2
    return { parent := parent
             edgeCount := s.edgeCount + 1
             lifetimes := if joins then s.lifetimes ++ [threshold - dist e.1 e.2]
               else s.lifetimes }
  else some s

def thresholdScan (dist : Fin n → Fin n → K) (threshold : K) : Option (ThresholdScan n K) :=
  (vertexPairs n).foldlM (thresholdStep dist threshold) ⟨id, 0, []⟩

def cycleCount (points edges components : Nat) : Nat :=
  if edges ≥ points then edges - points + components else 0

def meanLifetime (lifetimes : List K) : K :=
  if lifetimes.isEmpty then 0 else sumFrom 0 lifetimes / Scalar.lit lifetimes.length 0

/-! ## The scan by length -/

/-- A pair of a length, or a triple of a largest length. -/
inductive FiltrationEvent (n : Nat) (K : Type) where
  | edge (dist : K) (i j : Fin n)
  | triangle (dist : K)

namespace FiltrationEvent

def dist : FiltrationEvent n K → K
  | edge d _ _ => d
  | triangle d => d

/-- Pairs come before triples of the same length. -/
def evType : FiltrationEvent n K → Nat
  | edge _ _ _ => 0
  | triangle _ => 1

/-- By length, then by type; lengths that do not compare count as equal. -/
def notAfter (a b : FiltrationEvent n K) : Bool :=
  if Scalar.lt a.dist b.dist then true
  else if Scalar.lt b.dist a.dist then false
  else decide (a.evType ≤ b.evType)

end FiltrationEvent

def filtration (dist : Fin n → Fin n → K) : List (FiltrationEvent n K) :=
  (vertexPairs n).map (fun e => .edge (dist e.1 e.2) e.1 e.2) ++
    (vertexTriples n).map fun t =>
      .triangle (Scalar.max (Scalar.max (dist t.1 t.2.1) (dist t.2.1 t.2.2)) (dist t.1 t.2.2))

structure PersistenceScan (n : Nat) (K : Type) where
  parent : Fin n → Fin n
  persistencePairs0 : List (K × K)
  persistencePairs1 : List (K × K)
  /-- The births of the open cycles, the last one first. -/
  activeCycles : List K

/-- A pair joins or opens a cycle; a triple closes the last one that is open. -/
def persistenceStep (s : PersistenceScan n K) :
    FiltrationEvent n K → Option (PersistenceScan n K)
  | .edge d i j => do
    let (joins, parent) ← connect s.parent i j
    if joins then
      return { s with parent := parent, persistencePairs0 := s.persistencePairs0 ++ [(0, d)] }
    else return { s with parent := parent, activeCycles := d :: s.activeCycles }
  | .triangle d =>
    match s.activeCycles with
    | [] => some s
    | birth :: rest =>
      some { s with persistencePairs1 := s.persistencePairs1 ++ [(birth, d)], activeCycles := rest }

def persistenceScan (dist : Fin n → Fin n → K) : Option (PersistenceScan n K) :=
  ((filtration dist).mergeSort FiltrationEvent.notAfter).foldlM persistenceStep ⟨id, [], [], []⟩

def totalPersistence (pairs : List (K × K)) : K :=
  sumFrom 0 (pairs.map fun p => p.2 - p.1)

/-- The larger of a bound and the lifetimes of pairs. -/
def maxPersistence (start : K) (pairs : List (K × K)) : K :=
  pairs.foldl (fun best p => if Scalar.lt best (p.2 - p.1) then p.2 - p.1 else best) start

/-! ## The analysis -/

/-- The report on points of given distances; nothing where a search does not end. -/
def analyzeDistances (dim : Nat) (dist : Fin n → Fin n → K) (threshold : K) :
    Option (TopologicalManifoldReport K) := do
  let scan ← thresholdScan dist threshold
  let betti0 ← rootCount scan.parent
  let persistence ← persistenceScan dist
  return { schema := "topological_skill_manifold:v2"
           sampleCount := n
           featureDim := dim
           betti0Components := betti0
           betti1Cycles := cycleCount n scan.edgeCount betti0
           meanPersistenceLifetime := meanLifetime scan.lifetimes
           topologicalHomotopyScore := clamp 0 1 (1 / Scalar.lit betti0 0)
           persistencePairs0 := persistence.persistencePairs0
           persistencePairs1 := persistence.persistencePairs1
           totalPersistence0 := totalPersistence persistence.persistencePairs0
           totalPersistence1 := totalPersistence persistence.persistencePairs1
           maxPersistenceLifetime :=
             maxPersistence (maxPersistence 0 persistence.persistencePairs0)
               persistence.persistencePairs1 }

def singlePointReport (dim : Nat) : TopologicalManifoldReport K where
  schema := "topological_skill_manifold:v2"
  sampleCount := 1
  featureDim := dim
  betti0Components := 1
  betti1Cycles := 0
  meanPersistenceLifetime := 1
  topologicalHomotopyScore := 1
  persistencePairs0 := []
  persistencePairs1 := []
  totalPersistence0 := 0
  totalPersistence1 := 0
  maxPersistenceLifetime := 1

def pointDistances (points : List (List K)) (i j : Fin points.length) : K :=
  pairDistance (points.get i) (points.get j)

def analyzeTopology (points : List (List K)) (threshold : K) :
    Option (BrainResult (TopologicalManifoldReport K)) :=
  match points with
  | [] => some (.error (invalid "topology_empty_points"))
  | first :: _ =>
    if points.any fun p => p.length != first.length then
      some (.error (invalid "topology_dimension_mismatch"))
    else if points.length = 1 then some (.ok (singlePointReport first.length))
    else (analyzeDistances first.length (pointDistances points) threshold).map .ok

/-! ## The gate on a map -/

structure TopologicallyValidatedTransportMap (Base K : Type) where
  base : Base
  targetBetti0 : Nat
  predictedBetti0 : Nat
  targetBetti1 : Nat
  predictedBetti1 : Nat
  targetHomotopyScore : K
  predictedHomotopyScore : K
  topologyPreserved : Bool

/-- The comparison of two reports, for a map that was validated before. -/
def compareTopology {Base : Type} (base : Base) (resolved : Bool)
    (target predicted : TopologicalManifoldReport K) :
    TopologicallyValidatedTransportMap Base K where
  base := base
  targetBetti0 := target.betti0Components
  predictedBetti0 := predicted.betti0Components
  targetBetti1 := target.betti1Cycles
  predictedBetti1 := predicted.betti1Cycles
  targetHomotopyScore := target.topologicalHomotopyScore
  predictedHomotopyScore := predicted.topologicalHomotopyScore
  topologyPreserved :=
    resolved && decide (target.betti0Components = predicted.betti0Components) &&
      decide (target.betti1Cycles = predicted.betti1Cycles) &&
      Scalar.lt (Scalar.abs (target.topologicalHomotopyScore - predicted.topologicalHomotopyScore))
        (Scalar.lit 25 2)

/-- The gate of receiver compilation. -/
def validateTransportWithTopology {Base : Type} (validated : BrainResult Base)
    (resolved : Base → Bool) (target predicted : List (List K)) (threshold : K) :
    Option (BrainResult (TopologicallyValidatedTransportMap Base K)) :=
  match validated with
  | .error e => some (.error e)
  | .ok base => do
    let targetTopo ← analyzeTopology target threshold
    let predTopo ← analyzeTopology predicted threshold
    return do
      let targetTopo ← targetTopo
      let predTopo ← predTopo
      return compareTopology base (resolved base) targetTopo predTopo

end

/-! ## What the scans leave -/

section

variable {K : Type} [Scalar K] {n : Nat}

lemma mem_vertexPairs {e : Fin n × Fin n} : e ∈ vertexPairs n ↔ e.1 < e.2 := by
  obtain ⟨i, j⟩ := e
  simp [vertexPairs]

lemma vertexPairs_simple : Simple (⊥ : SimpleGraph (Fin n)) (vertexPairs n) := by
  refine ⟨?_, ?_⟩
  · refine Nodup.map_on ?_ ?_
    · intro e he e' he' heq
      rw [mem_vertexPairs] at he he'
      rw [Sym2.eq_iff] at heq
      rcases heq with ⟨h1, h2⟩ | ⟨h1, h2⟩
      · exact Prod.ext h1 h2
      · rw [h1, h2] at he
        exact absurd he' (lt_asymm he)
    · unfold vertexPairs
      rw [nodup_flatMap]
      refine ⟨?_, ?_⟩
      · intro i _
        exact ((nodup_finRange n).filter _).map fun a b h => (Prod.mk.inj h).2
      · refine (nodup_finRange n).imp ?_
        intro a b hab p hpa hpb
        obtain ⟨x, -, rfl⟩ := mem_map.mp hpa
        obtain ⟨y, -, heq⟩ := mem_map.mp hpb
        exact hab (Prod.mk.inj heq).1.symm
  · intro e he
    exact ⟨(mem_vertexPairs.mp he).ne, fun hbot => hbot⟩

def withinPairs (dist : Fin n → Fin n → K) (threshold : K) : List (Fin n × Fin n) :=
  (vertexPairs n).filter fun e => Scalar.le (dist e.1 e.2) threshold

/-- The graph that joins points at a distance of at most the threshold. -/
def thresholdGraph (dist : Fin n → Fin n → K) (threshold : K) : SimpleGraph (Fin n) :=
  SimpleGraph.fromRel fun i j => i < j ∧ Scalar.le (dist i j) threshold = true

section

variable (dist : Fin n → Fin n → K) (threshold : K)
include dist threshold

lemma withinPairs_simple : Simple ⊥ (withinPairs dist threshold) :=
  vertexPairs_simple.sublist filter_sublist

lemma withEdges_withinPairs :
    withEdges ⊥ (withinPairs dist threshold) = thresholdGraph dist threshold := by
  ext i j
  have hmem : ∀ a b : Fin n, (a, b) ∈ withinPairs dist threshold ↔
      a < b ∧ le (dist a b) threshold = true := by
    intro a b
    unfold withinPairs
    rw [mem_filter, mem_vertexPairs]
  unfold thresholdGraph
  rw [withEdges_adj, SimpleGraph.fromRel_adj, hmem, hmem]
  constructor
  · intro h
    rcases h with hbot | h
    · exact absurd hbot id
    · exact ⟨h.2, h.1⟩
  · intro h
    exact .inr ⟨h.2, h.1⟩

lemma thresholdScan_run (es : List (Fin n × Fin n)) {s : ThresholdScan n K}
    {G : SimpleGraph (Fin n)} (h : Represents s.parent G) :
    ∃ s', es.foldlM (thresholdStep dist threshold) s = some s' ∧ Represents s'.parent
        (withEdges G (es.filter fun e => le (dist e.1 e.2) threshold)) ∧
      s'.edgeCount = s.edgeCount + (es.filter fun e => le (dist e.1 e.2) threshold).length ∧
      s'.lifetimes = s.lifetimes ++ (joining G (es.filter fun e => le (dist e.1 e.2) threshold)).map
          fun e => threshold - dist e.1 e.2 := by
  induction es generalizing s G with
  | nil => exact ⟨s, rfl, h, rfl, (append_nil _).symm⟩
  | cons e es ih =>
    by_cases hle : le (dist e.1 e.2) threshold = true
    · have hfilter : (e :: es).filter (fun e => le (dist e.1 e.2) threshold) =
          e :: es.filter fun e => le (dist e.1 e.2) threshold :=
        filter_cons_of_pos hle
      obtain ⟨joins, parent, hconnect, hjoins, hrep⟩ := connect_spec h e.1 e.2
      have hstep : thresholdStep dist threshold s e = some
          { parent := parent
            edgeCount := s.edgeCount + 1
            lifetimes := if joins then s.lifetimes ++ [threshold - dist e.1 e.2]
              else s.lifetimes } := by
        unfold thresholdStep
        rw [if_pos hle, hconnect]
        rfl
      obtain ⟨s', hrun, hparent, hcount, hlifetimes⟩ := ih (s := ⟨parent, s.edgeCount + 1, _⟩) hrep
      refine ⟨s', ?_, ?_, ?_, ?_⟩
      · rw [foldlM_cons, hstep]
        exact hrun
      · rw [hfilter]
        exact hparent
      · rw [hcount, hfilter, length_cons]
        show s.edgeCount + 1 + _ = _
        omega
      · rw [hlifetimes, hfilter]
        by_cases hreach : G.Reachable e.1 e.2
        · have hfalse : joins = false := by
            rw [← Bool.not_eq_true, hjoins, not_not]
            exact hreach
          rw [joining_of_reachable hreach, hfalse]
          rfl
        · rw [joining_of_not_reachable hreach, hjoins.mpr hreach, map_cons]
          show s.lifetimes ++ [threshold - dist e.1 e.2] ++ _ = _
          rw [append_assoc]
          rfl
    · have hfilter : (e :: es).filter (fun e => le (dist e.1 e.2) threshold) =
          es.filter fun e => le (dist e.1 e.2) threshold :=
        filter_cons_of_neg hle
      obtain ⟨s', hrun, hparent, hcount, hlifetimes⟩ := ih (s := s) h
      have hstep : thresholdStep dist threshold s e = some s := by
        unfold thresholdStep
        rw [if_neg hle]
      refine ⟨s', ?_, ?_, ?_, ?_⟩
      · rw [foldlM_cons, hstep]
        exact hrun
      · rw [hfilter]
        exact hparent
      · rw [hfilter]
        exact hcount
      · rw [hfilter]
        exact hlifetimes

/-- What the scan at a threshold leaves: the components of the graph, the number of its
    edges, and the lifetimes of the pairs that join. -/
lemma thresholdScan_spec : ∃ scan, thresholdScan dist threshold = some scan ∧
      Represents scan.parent (thresholdGraph dist threshold) ∧
      scan.edgeCount = Nat.card (thresholdGraph dist threshold).edgeSet ∧
      scan.lifetimes = (joining ⊥ (withinPairs dist threshold)).map
        fun e => threshold - dist e.1 e.2 := by
  obtain ⟨scan, hrun, hparent, hcount, hlifetimes⟩ := thresholdScan_run dist threshold
    (vertexPairs n) (s := ⟨id, 0, []⟩) represents_start
  refine ⟨scan, hrun, ?_, ?_, hlifetimes⟩
  · rw [← withEdges_withinPairs]
    exact hparent
  · rw [hcount, ← withEdges_withinPairs, card_edgeSet_withEdges (withinPairs_simple _ _),
      Nat.zero_add]
    rfl

end

open Classical in
/-- The lengths at which events join components. -/
noncomputable def deaths (G : SimpleGraph (Fin n)) : List (FiltrationEvent n K) → List K
  | [] => []
  | .edge d i j :: events =>
    if G.Reachable i j then deaths (G ⊔ SimpleGraph.edge i j) events
    else d :: deaths (G ⊔ SimpleGraph.edge i j) events
  | .triangle _ :: events => deaths G events

open Classical in
/-- The cycles that events open, and the triples that may close them. -/
noncomputable def cycles (G : SimpleGraph (Fin n)) : List (FiltrationEvent n K) → List (Bool × K)
  | [] => []
  | .edge d i j :: events =>
    if G.Reachable i j then (false, d) :: cycles (G ⊔ SimpleGraph.edge i j) events
    else cycles (G ⊔ SimpleGraph.edge i j) events
  | .triangle d :: events => (true, d) :: cycles G events

/-- A cycle goes on the stack, and a triple takes the last one off. -/
def closeStep (s : List K × List (K × K)) (event : Bool × K) : List K × List (K × K) :=
  if event.1 then
    match s.1 with
    | [] => s
    | birth :: rest => (rest, s.2 ++ [(birth, event.2)])
  else (event.2 :: s.1, s.2)

lemma persistenceScan_run (events : List (FiltrationEvent n K)) {s : PersistenceScan n K}
    {G : SimpleGraph (Fin n)} (h : Represents s.parent G) :
    ∃ s', events.foldlM persistenceStep s = some s' ∧
      s'.persistencePairs0 = s.persistencePairs0 ++ (deaths G events).map (fun d => (0, d)) ∧
      (s'.activeCycles, s'.persistencePairs1) =
        (cycles G events).foldl closeStep (s.activeCycles, s.persistencePairs1) := by
  induction events generalizing s G with
  | nil => exact ⟨s, rfl, (append_nil _).symm, rfl⟩
  | cons event events ih =>
    rw [foldlM_cons]
    cases event with
    | edge d i j =>
      obtain ⟨joins, parent, hconnect, hjoins, hrep⟩ := connect_spec h i j
      have hstep : persistenceStep s (.edge d i j) = some (if joins then
          { s with parent := parent, persistencePairs0 := s.persistencePairs0 ++ [(0, d)] }
          else { s with parent := parent, activeCycles := d :: s.activeCycles }) := by
        unfold persistenceStep
        dsimp only
        rw [hconnect]
        cases joins <;> rfl
      rw [hstep]
      by_cases hreach : G.Reachable i j
      · have hfalse : joins = false := by
          rw [← Bool.not_eq_true, hjoins, not_not]
          exact hreach
        have hdeaths : deaths G (.edge d i j :: events) =
            deaths (G ⊔ SimpleGraph.edge i j) events := if_pos hreach
        have hopen : cycles G (.edge d i j :: events) =
            (false, d) :: cycles (G ⊔ SimpleGraph.edge i j) events := if_pos hreach
        rw [hfalse, hdeaths, hopen]
        exact ih (s := ⟨parent, s.persistencePairs0, s.persistencePairs1, d :: s.activeCycles⟩) hrep
      · obtain ⟨s', hrun, hpairs, hcycles⟩ := ih
          (s := ⟨parent, s.persistencePairs0 ++ [(0, d)], s.persistencePairs1, s.activeCycles⟩) hrep
        have hdeaths : deaths G (.edge d i j :: events) =
            d :: deaths (G ⊔ SimpleGraph.edge i j) events := if_neg hreach
        have hopen : cycles G (.edge d i j :: events) =
            cycles (G ⊔ SimpleGraph.edge i j) events := if_neg hreach
        rw [hjoins.mpr hreach, hdeaths, hopen]
        refine ⟨s', hrun, ?_, hcycles⟩
        rw [hpairs, map_cons, append_assoc]
        rfl
    | triangle d =>
      cases hactive : s.activeCycles with
      | nil =>
        obtain ⟨s', hrun, hpairs, hcycles⟩ := ih h
        refine ⟨s', ?_, hpairs, ?_⟩
        · unfold persistenceStep
          rw [hactive]
          exact hrun
        · rw [hcycles, hactive]
          rfl
      | cons birth rest =>
        obtain ⟨s', hrun, hpairs, hcycles⟩ := ih
          (s := ⟨s.parent, s.persistencePairs0, s.persistencePairs1 ++ [(birth, d)], rest⟩) h
        refine ⟨s', ?_, hpairs, ?_⟩
        · unfold persistenceStep
          rw [hactive]
          exact hrun
        · rw [hcycles]
          rfl

def filtered (dist : Fin n → Fin n → K) : List (FiltrationEvent n K) :=
  (filtration dist).mergeSort FiltrationEvent.notAfter

lemma persistenceScan_spec (dist : Fin n → Fin n → K) : ∃ scan, persistenceScan dist = some scan ∧
      scan.persistencePairs0 = (deaths ⊥ (filtered dist)).map (fun d => (0, d)) ∧
      scan.persistencePairs1 = ((cycles ⊥ (filtered dist)).foldl closeStep ([], [])).2 := by
  obtain ⟨scan, hrun, hpairs, hcycles⟩ := persistenceScan_run (filtered dist)
    (s := ⟨id, [], [], []⟩) represents_start
  exact ⟨scan, hrun, hpairs, congrArg Prod.snd hcycles⟩

/-- The report, of the components of the graph, its edges, and the two scans. -/
lemma analyzeDistances_spec (dim : Nat) (dist : Fin n → Fin n → K) (threshold : K) :
    ∃ scan persistence, thresholdScan dist threshold = some scan ∧
      persistenceScan dist = some persistence ∧
      analyzeDistances dim dist threshold = some
        { schema := "topological_skill_manifold:v2"
          sampleCount := n
          featureDim := dim
          betti0Components := components (thresholdGraph dist threshold)
          betti1Cycles := cycleCount n (Nat.card (thresholdGraph dist threshold).edgeSet)
            (components (thresholdGraph dist threshold))
          meanPersistenceLifetime := meanLifetime scan.lifetimes
          topologicalHomotopyScore :=
            clamp 0 1 (1 / lit (components (thresholdGraph dist threshold)) 0)
          persistencePairs0 := persistence.persistencePairs0
          persistencePairs1 := persistence.persistencePairs1
          totalPersistence0 := totalPersistence persistence.persistencePairs0
          totalPersistence1 := totalPersistence persistence.persistencePairs1
          maxPersistenceLifetime :=
            maxPersistence (maxPersistence 0 persistence.persistencePairs0)
              persistence.persistencePairs1 } := by
  obtain ⟨scan, hscan, hparent, hcount, -⟩ := thresholdScan_spec dist threshold
  obtain ⟨persistence, hpersistence, -, -⟩ := persistenceScan_spec dist
  refine ⟨scan, persistence, hscan, hpersistence, ?_⟩
  unfold analyzeDistances
  rw [hscan, bind_eq_bind, bind_some, rootCount_spec hparent, bind_eq_bind,
    bind_some, hpersistence, bind_eq_bind, bind_some, hcount]
  rfl

end

/-! ## Betti numbers -/

section

variable {K : Type} [Scalar K]

/-- Points to compare: there is one, and they have one dimension. -/
structure Cloud (points : List (List K)) (dim : Nat) : Prop where
  nonempty : points ≠ []
  shape : ∀ p ∈ points, p.length = dim

def pointGraph (points : List (List K)) (threshold : K) : SimpleGraph (Fin points.length) :=
  thresholdGraph (pointDistances points) threshold

variable {points : List (List K)} {dim : Nat}

lemma analyzeTopology_cloud (h : Cloud points dim) (threshold : K) :
    analyzeTopology points threshold = if points.length = 1 then some (.ok (singlePointReport dim))
      else (analyzeDistances dim (pointDistances points) threshold).map .ok := by
  cases points with
  | nil => exact absurd rfl h.nonempty
  | cons first rest =>
    have hfirst := h.shape first mem_cons_self
    have hshape : ((first :: rest).any fun p => p.length != first.length) = false := by
      rw [List.any_eq_false]
      intro p hp
      rw [h.shape p hp, hfirst]
      simp
    unfold analyzeTopology
    dsimp only
    rw [hshape, hfirst]
    rfl

lemma betti_spec (h : Cloud points dim) (threshold : K) :
    ∃ report, analyzeTopology points threshold = some (.ok report) ∧
      report.betti0Components = components (pointGraph points threshold) ∧
      report.betti1Cycles = cycleCount points.length
        (Nat.card (pointGraph points threshold).edgeSet)
        (components (pointGraph points threshold)) := by
  rw [analyzeTopology_cloud h]
  by_cases hone : points.length = 1
  · rw [if_pos hone]
    have hsub : Subsingleton (Fin points.length) := by
      rw [hone]
      infer_instance
    have hedges : Nat.card (pointGraph points threshold).edgeSet = 0 := by
      rw [Nat.card_eq_zero]
      left
      rw [Subsingleton.elim (pointGraph points threshold) ⊥, SimpleGraph.edgeSet_bot]
      infer_instance
    have hcomponents : components (pointGraph points threshold) = 1 := by
      rw [Subsingleton.elim (pointGraph points threshold) ⊥, components_bot,
        Nat.card_eq_fintype_card, Fintype.card_fin, hone]
    refine ⟨_, rfl, hcomponents.symm, ?_⟩
    rw [hedges, hcomponents, hone]
    rfl
  · rw [if_neg hone]
    obtain ⟨scan, persistence, -, -, hreport⟩ := analyzeDistances_spec dim (pointDistances points)
      threshold
    rw [hreport]
    exact ⟨_, rfl, rfl, rfl⟩

/-- The Betti numbers of a report are right: the components of the graph, and its edges
    minus its points plus its components. -/
def BettiRight (points : List (List K)) (threshold : K) : Prop :=
  ∃ report, analyzeTopology points threshold = some (.ok report) ∧
    report.betti0Components = components (pointGraph points threshold) ∧
    (report.betti1Cycles : Int) = Nat.card (pointGraph points threshold).edgeSet -
      points.length + components (pointGraph points threshold)

lemma cycleCount_right (h : Cloud points dim) (threshold : K) : BettiRight points threshold ↔
      points.length ≤ Nat.card (pointGraph points threshold).edgeSet ∨
        (pointGraph points threshold).IsAcyclic := by
  obtain ⟨report, hreport, hzero, hone⟩ := betti_spec h threshold
  have hcard : Nat.card (Fin points.length) = points.length := by
    rw [Nat.card_eq_fintype_card, Fintype.card_fin]
  have hbound := card_le_edges_add_components (pointGraph points threshold)
  rw [isAcyclic_iff_card, hcard]
  rw [hcard] at hbound
  have hright : BettiRight points threshold ↔
      (report.betti1Cycles : Int) = Nat.card (pointGraph points threshold).edgeSet -
        points.length + components (pointGraph points threshold) := by
    constructor
    · intro hbetti
      obtain ⟨report', hreport', -, hcycles⟩ := hbetti
      rw [hreport] at hreport'
      cases hreport'
      exact hcycles
    · intro hcycles
      exact ⟨report, hreport, hzero, hcycles⟩
  rw [hright, hone]
  unfold cycleCount
  split <;> omega

/-- The gate compares the numbers of the two reports, for a map that was resolved. -/
def GateCompares (target : List (List K)) (threshold : K) : Prop :=
  ∀ (Base : Type) (validated : BrainResult Base) (resolved : Base → Bool)
    (predicted : List (List K)) (map : TopologicallyValidatedTransportMap Base K),
    validateTransportWithTopology validated resolved target predicted threshold =
      some (.ok map) →
    ∃ targetTopo predTopo,
      analyzeTopology target threshold = some (.ok targetTopo) ∧
      analyzeTopology predicted threshold = some (.ok predTopo) ∧
      map.targetBetti0 = targetTopo.betti0Components ∧
      map.predictedBetti0 = predTopo.betti0Components ∧
      map.targetBetti1 = targetTopo.betti1Cycles ∧
      map.predictedBetti1 = predTopo.betti1Cycles ∧
      (map.topologyPreserved = true ↔ resolved map.base = true ∧
        targetTopo.betti0Components = predTopo.betti0Components ∧
        targetTopo.betti1Cycles = predTopo.betti1Cycles ∧
        Scalar.lt (Scalar.abs (targetTopo.topologicalHomotopyScore -
          predTopo.topologicalHomotopyScore)) (Scalar.lit 25 2 : K) = true)

lemma gateCompares (target : List (List K)) (threshold : K) : GateCompares target threshold := by
  intro Base validated resolved predicted map h
  unfold validateTransportWithTopology at h
  cases validated with
  | error e => cases h
  | ok base =>
    dsimp only at h
    rw [bind_eq_bind, bind_eq_some_iff] at h
    obtain ⟨targetResult, htarget, h⟩ := h
    rw [bind_eq_some_iff] at h
    obtain ⟨predResult, hpred, h⟩ := h
    cases targetResult with
    | error e => cases h
    | ok targetTopo =>
      cases predResult with
      | error e => cases h
      | ok predTopo =>
        cases h
        refine ⟨targetTopo, predTopo, htarget, hpred, rfl, rfl, rfl, rfl, ?_⟩
        show (resolved base && _ && _ && _) = true ↔ resolved base = true ∧ _
        rw [Bool.and_eq_true, Bool.and_eq_true, Bool.and_eq_true, decide_eq_true_iff,
          decide_eq_true_iff, and_assoc, and_assoc]

end

/-! ## A triangle beside a point -/

/-- Three points in one place, and one away from them. -/
def besidePoint : List (List ℝ) := [[0], [0], [0], [1 + 1]]

lemma besidePoint_cloud : Cloud besidePoint 1 := by
  refine ⟨cons_ne_nil _ _, ?_⟩
  intro p hp
  simp only [besidePoint, mem_cons, not_mem_nil, or_false] at hp
  rcases hp with rfl | rfl | rfl | rfl <;> rfl

noncomputable def besideDistances : Fin 4 → Fin 4 → ℝ := pointDistances besidePoint

lemma besideDistances_le (i j : Fin 4) :
    le (besideDistances i j) (1 : ℝ) = true ↔ (i = 3 ↔ j = 3) := by
  have hdist : ∀ a b : ℝ, pairDistance [a] [b] = Real.sqrt ((a - b) * (a - b)) := by
    intro a b
    unfold pairDistance
    rw [exact_sqrt, sumFrom_exact, zipWith_cons_cons, zipWith_nil_right, sum_cons,
      sum_nil, add_zero, zero_add]
  have hzero : Real.sqrt (((0 : ℝ) - 0) * (0 - 0)) ≤ 1 := by norm_num
  have htwo : Real.sqrt (((1 : ℝ) + 1 - (1 + 1)) * (1 + 1 - (1 + 1))) ≤ 1 := by norm_num
  have hleft : ¬Real.sqrt (((0 : ℝ) - (1 + 1)) * (0 - (1 + 1))) ≤ 1 := by
    rw [Real.sqrt_mul_self_eq_abs]
    norm_num
  have hright : ¬Real.sqrt (((1 : ℝ) + 1 - 0) * (1 + 1 - 0)) ≤ 1 := by
    rw [Real.sqrt_mul_self_eq_abs]
    norm_num
  rw [exact_le]
  show pairDistance (besidePoint.get i) (besidePoint.get j) ≤ 1 ↔ _
  have hvertices : ∀ k : Fin 4,
      (besidePoint.get k = [0] ∧ k ≠ 3) ∨ (besidePoint.get k = [1 + 1] ∧ k = 3) := by
    intro k
    match k with
    | 0 => exact .inl ⟨rfl, by decide⟩
    | 1 => exact .inl ⟨rfl, by decide⟩
    | 2 => exact .inl ⟨rfl, by decide⟩
    | 3 => exact .inr ⟨rfl, rfl⟩
  rcases hvertices i with ⟨hi, hi'⟩ | ⟨hi, rfl⟩
  · rcases hvertices j with ⟨hj, hj'⟩ | ⟨hj, rfl⟩
    · rw [hi, hj, hdist]
      exact ⟨fun _ => ⟨fun h => absurd h hi', fun h => absurd h hj'⟩, fun _ => hzero⟩
    · rw [hi, hj, hdist]
      exact ⟨fun h => absurd h hleft, fun h => absurd (h.mpr rfl) hi'⟩
  · rcases hvertices j with ⟨hj, hj'⟩ | ⟨hj, rfl⟩
    · rw [hi, hj, hdist]
      exact ⟨fun h => absurd h hright, fun h => absurd (h.mp rfl) hj'⟩
    · rw [hi, hdist]
      exact ⟨fun _ => Iff.rfl, fun _ => htwo⟩

end Tidex.Analysis
