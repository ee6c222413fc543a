/-
  Knowledge.Expansion — reducing a dependency expansion.
-/
import Tidex.Knowledge.Plan

namespace Tidex.Knowledge

open Tidex.Lib Relation List Std.ExtTreeMap BTreeMap

/-! ## The reducer -/

/-- Add an edge to a graph that has its source. -/
def linkDependency (graph : DependencyGraph) (fromNode toNode : DependencyNodeId) :
    BrainResult DependencyGraph := do
  let targets ← okOr graph[fromNode]? (integrity "dependency_graph_source_missing")
  return graph.insert fromNode (targets.insert toNode)

/-- A state under reduction and the changes recorded so far. -/
abbrev Reduction := KnowledgeStateProjection × TransitionChanges

def blockOnCycle (obligationId : KnowledgeObligationId) (receiptDigest : ActionReceiptDigest)
    (acc : Reduction) (edge : DependencyEdge) : BrainResult Reduction := do
  let (state, changes) := acc
  let obligation ← okOr state.obligations[obligationId]?
    (integrity "dependency_obligation_missing")
  let blocked : KnowledgeObligationState :=
    .blocked obligation.state.attempts obligation.state.witnesses
      (.dependencyCycle receiptDigest edge.fromNode edge.toNode)
  return ({ state with
      obligations := state.obligations.insert obligationId { obligation with state := blocked } },
    { changes with
      blockedObligations := changes.blockedObligations.insert obligation.obligationId })

section

variable [Platform]

/-- What the identities of a discovered node are derived from. -/
def nodeIdentityPayload (s : KnowledgeStateProjection) (node : DependencyNodeId) : ByteArray :=
  tupleToVec [toJson s.inquiryId, toJson s.capabilityBundle, toJson node]

def nodeClaimId (s : KnowledgeStateProjection) (node : DependencyNodeId) : KnowledgeClaimId :=
  .derivedDiscovery (nodeIdentityPayload s node)

def nodeObligationId (s : KnowledgeStateProjection) (node : DependencyNodeId) :
    KnowledgeObligationId :=
  .derivedDiscovery (nodeIdentityPayload s node)

/-- Admit a new node: a claim, an obligation and a place in the index. -/
def admitNode (maxDepth childDepth : Nat) (acc : Reduction) (edge : DependencyEdge) :
    BrainResult Reduction := do
  let (state, changes) := acc
  let claimId := nodeClaimId state edge.toNode
  let obligationId := nodeObligationId state edge.toNode
  failIf (claimId ∈ state.claims ∨ obligationId ∈ state.obligations)
    (integrity "derived_dependency_identity_collision")
  let predicate ← dependencyClosurePredicate edge.toNode
  let graph ← linkDependency (state.dependencyGraph.insert edge.toNode ∅) edge.fromNode edge.toNode
  return ({ state with
      claims := state.claims.insert claimId ⟨claimId, .dependencyClosure, predicate, .unresolved⟩
      obligations := state.obligations.insert obligationId
        ⟨obligationId, claimId, .dependencyClosure, ⟨predicate⟩,
          .expandDependencyClosure edge.toNode childDepth maxDepth, .open_ 0 ∅⟩
      dependencyParents := state.dependencyParents.insert edge.toNode (some edge.fromNode)
      dependencyDepths := state.dependencyDepths.insert edge.toNode childDepth
      dependencyGraph := graph },
    { changes with
      addedClaims := changes.addedClaims.insert claimId
      addedObligations := changes.addedObligations.insert obligationId })

def closesCycle (s : KnowledgeStateProjection) (edge : DependencyEdge) : BrainResult Bool :=
  if edge.toNode = edge.fromNode then .ok true
  else dependencyGraphReachable s.dependencyGraph edge.toNode edge.fromNode
    s.budget.maxDependencyNodes

def expandEdge (invocation : DependencyExpansionInvocation) (sourceDepth : Nat)
    (receiptDigest : ActionReceiptDigest) (acc : Reduction) (edge : DependencyEdge) :
    BrainResult Reduction := do
  let (state, changes) := acc
  failIf (edge.fromNode ≠ invocation.root) (integrity "dependency_edge_source_mismatch")
  let cyclic ← closesCycle state edge
  if cyclic then blockOnCycle invocation.binding.obligationId receiptDigest acc edge
  else if edge.toNode ∈ state.dependencyParents then do
    let graph ← linkDependency state.dependencyGraph edge.fromNode edge.toNode
    return ({ state with dependencyGraph := graph }, changes)
  else do
    let childDepth ← checkedAdd u16Width sourceDepth 1 (invalid "dependency_depth_overflow")
    if childDepth > invocation.maxDepth ∨ childDepth > state.budget.maxDependencyDepth then
      return ({ state with boundedReason := some (.dependencyDepthLimitReached edge.toNode) },
        changes)
    else if state.dependencyParents.size ≥ state.budget.maxDependencyNodes then
      return ({ state with boundedReason := some .dependencyNodeLimitReached }, changes)
    else admitNode invocation.maxDepth childDepth acc edge

def reduceDependencyExpansion (acc : Reduction) (invocation : DependencyExpansionInvocation)
    (edges : BTreeSet DependencyEdge) (receiptDigest : ActionReceiptDigest) :
    BrainResult Reduction := do
  let sourceDepth ← okOr acc.1.dependencyDepths[invocation.root]?
    (integrity "dependency_source_not_indexed")
  failIf (sourceDepth ≠ invocation.depth) (integrity "dependency_invocation_depth_mismatch")
  edges.toList.foldlM (expandEdge invocation sourceDepth receiptDigest) acc

/-! ## What the state is after a list of edges -/

/-- A node that the expansion may admit one level below the root. -/
def depthAllows (s : KnowledgeStateProjection) (x : DependencyExpansionInvocation) : Bool :=
  x.depth + 1 ≤ x.maxDepth && x.depth + 1 ≤ s.budget.maxDependencyDepth

/-- The new nodes that a list of edges admits: the first that fit. -/
def admittedNodes (s : KnowledgeStateProjection) (x : DependencyExpansionInvocation)
    (edges : List DependencyEdge) : List DependencyNodeId :=
  if depthAllows s x then
    ((edges.map DependencyEdge.toNode).filter (· ∉ s.dependencyParents)).take
      (s.budget.maxDependencyNodes - s.dependencyParents.size)
  else []

def nodeClaim (s : KnowledgeStateProjection) (node : DependencyNodeId) : KnowledgeClaim :=
  ⟨nodeClaimId s node, .dependencyClosure, .boolEquals (dependencyObservationKey node) true,
    .unresolved⟩

def nodeObligation (s : KnowledgeStateProjection) (x : DependencyExpansionInvocation)
    (node : DependencyNodeId) : KnowledgeObligation :=
  ⟨nodeObligationId s node, nodeClaimId s node, .dependencyClosure,
    ⟨.boolEquals (dependencyObservationKey node) true⟩,
    .expandDependencyClosure node (x.depth + 1) x.maxDepth, .open_ 0 ∅⟩

/-- An edge target from which the root can be reached already. -/
def Cyclic (s : KnowledgeStateProjection) (x : DependencyExpansionInvocation)
    (node : DependencyNodeId) : Prop :=
  ReflTransGen s.dependencyGraph.Edge node x.root

/-- An edge of a list whose target is known or admitted, and closes no cycle. -/
def Linked (s : KnowledgeStateProjection) (x : DependencyExpansionInvocation)
    (edges : List DependencyEdge) (node : DependencyNodeId) : Prop :=
  node ∈ edges.map DependencyEdge.toNode ∧ ¬Cyclic s x node ∧
    (node ∈ s.dependencyParents ∨ node ∈ admittedNodes s x edges)

def FreshNode (p : KnowledgeStateProjection) (n : DependencyNodeId) : Prop :=
  nodeClaimId p n ∉ p.claims ∧ nodeObligationId p n ∉ p.obligations

/-- The state `p` holds what `s` holds and the nodes of a list, each with its claim, its
    obligation and its place in the index. -/
structure Admitted (s : KnowledgeStateProjection) (x : DependencyExpansionInvocation)
    (nodes : List DependencyNodeId) (p : KnowledgeStateProjection) : Prop where
  fresh : ∀ n ∈ nodes, FreshNode s n
  claims : ∀ (id : KnowledgeClaimId) (c : KnowledgeClaim), p.claims[id]? = some c ↔
    s.claims[id]? = some c ∨ ∃ n ∈ nodes, id = nodeClaimId s n ∧ c = nodeClaim s n
  claims_size : p.claims.size = s.claims.size + nodes.length
  obligations : ∀ (id : KnowledgeObligationId) (o : KnowledgeObligation),
    id ≠ x.binding.obligationId → (p.obligations[id]? = some o ↔ s.obligations[id]? = some o ∨
      ∃ n ∈ nodes, id = nodeObligationId s n ∧ o = nodeObligation s x n)
  obligations_size : p.obligations.size = s.obligations.size + nodes.length
  parents : ∀ (n : DependencyNodeId) (q : Option DependencyNodeId),
    p.dependencyParents[n]? = some q ↔
      s.dependencyParents[n]? = some q ∨ n ∈ nodes ∧ q = some x.root
  parents_size : p.dependencyParents.size = s.dependencyParents.size + nodes.length
  depths : ∀ (n : DependencyNodeId) (d : Nat), p.dependencyDepths[n]? = some d ↔
    s.dependencyDepths[n]? = some d ∨ n ∈ nodes ∧ d = x.depth + 1
  depths_size : p.dependencyDepths.size = s.dependencyDepths.size + nodes.length
  graph : ∀ n : DependencyNodeId, n ∈ p.dependencyGraph ↔ n ∈ s.dependencyGraph ∨ n ∈ nodes
  graph_size : p.dependencyGraph.size = s.dependencyGraph.size + nodes.length

/-- The state `p` that a list of edges makes of `s`. -/
structure Expanded (s : KnowledgeStateProjection) (x : DependencyExpansionInvocation)
    (receiptDigest : ActionReceiptDigest) (edges : List DependencyEdge)
    (p : KnowledgeStateProjection) : Prop extends Admitted s x (admittedNodes s x edges) p where
  frame : p = { s with
    claims := p.claims
    obligations := p.obligations
    dependencyParents := p.dependencyParents
    dependencyDepths := p.dependencyDepths
    dependencyGraph := p.dependencyGraph
    boundedReason := p.boundedReason }
  selected : ∃ o, s.obligations[x.binding.obligationId]? = some o ∧
    (p.obligations[x.binding.obligationId]? = some o ∧
        (∀ e ∈ edges, ¬Cyclic s x e.toNode) ∨
      ∃ e ∈ edges, Cyclic s x e.toNode ∧
        p.obligations[x.binding.obligationId]? = some { o with
          state := .blocked o.state.attempts o.state.witnesses
            (.dependencyCycle receiptDigest e.fromNode e.toNode) })
  edges_iff : ∀ a b, p.dependencyGraph.Edge a b ↔
    s.dependencyGraph.Edge a b ∨ a = x.root ∧ Linked s x edges b
  edgeCount_le : p.dependencyGraph.edgeCount ≤ s.dependencyGraph.edgeCount + edges.length
  bounded : p.boundedReason = s.boundedReason ∨ p.boundedReason ≠ none
  accounted : ∀ e ∈ edges, Cyclic s x e.toNode ∨ Linked s x edges e.toNode ∨
    p.boundedReason ≠ none

/-! ## Adding an edge, adding a node -/

variable {graph graph' : DependencyGraph}

omit [Platform] in
lemma linkDependency_ok {a b : DependencyNodeId} : linkDependency graph a b = .ok graph' ↔
      ∃ targets, graph[a]? = some targets ∧ graph' = graph.insert a (targets.insert b) := by
  simp only [linkDependency, bind_ok, okOr_ok, pure_ok, eq_comm (b := graph')]

structure EdgeAdded (graph graph' : DependencyGraph) (a b : DependencyNodeId) : Prop where
  mem_iff : ∀ n : DependencyNodeId, n ∈ graph' ↔ n ∈ graph
  size_eq : graph'.size = graph.size
  edge_iff : ∀ u v, graph'.Edge u v ↔ graph.Edge u v ∨ u = a ∧ v = b
  edgeCount_le : graph'.edgeCount ≤ graph.edgeCount + 1

section

omit [Platform]

lemma linkDependency_spec {a b : DependencyNodeId} (h : linkDependency graph a b = .ok graph') :
    EdgeAdded graph graph' a b := by
  obtain ⟨targets, ha, rfl⟩ := linkDependency_ok.mp h
  have hmem : a ∈ graph := mem_iff_getElem?.mpr ⟨targets, ha⟩
  refine ⟨?_, ?_, ?_, ?_⟩
  · intro n
    rw [mem_insert, Std.LawfulEqCmp.compare_eq_iff_eq]
    constructor
    · rintro (rfl | hn)
      · exact hmem
      · exact hn
    · exact .inr
  · exact size_insert_old hmem
  · intro u v
    by_cases hu : a = u
    · subst hu
      have hlinked : (graph.insert a (targets.insert b))[a]? = some (targets.insert b) := by
        rw [getElem?_insert_iff, if_pos rfl]
      rw [DependencyGraph.edge_iff ha, DependencyGraph.edge_iff hlinked, BTreeSet.mem_insert_iff]
      simp [or_comm]
    · have hu' : ¬u = a := fun heq => hu heq.symm
      simp only [DependencyGraph.Edge, getElem?_insert_of_ne hu, hu', false_and, or_false]
  · have hsum := valuesSum_insert_old (v := targets.insert b)
      (f := Std.ExtTreeSet.size) ha
    have hsize : (targets.insert b).size ≤ targets.size + 1 := Std.ExtTreeSet.size_insert_le
    unfold DependencyGraph.edgeCount
    omega

end

structure NodeAdded (graph graph' : DependencyGraph) (node : DependencyNodeId) : Prop where
  mem_iff : ∀ n : DependencyNodeId, n ∈ graph' ↔ n ∈ graph ∨ n = node
  size_eq : graph'.size = graph.size + 1
  edge_iff : ∀ u v, graph'.Edge u v ↔ graph.Edge u v
  edgeCount_eq : graph'.edgeCount = graph.edgeCount

omit [Platform] in
lemma nodeAdded_insert {graph : DependencyGraph} {node : DependencyNodeId} (h : node ∉ graph) :
    NodeAdded graph (graph.insert node ∅) node := by
  have hnone : graph[node]? = none := getElem?_eq_none h
  refine ⟨?_, ?_, ?_, ?_⟩
  · intro n
    rw [mem_insert, Std.LawfulEqCmp.compare_eq_iff_eq, eq_comm, or_comm]
  · exact size_insert_new h
  · intro u v
    by_cases hu : node = u
    · subst hu
      constructor
      · rintro ⟨targets, hu, hv⟩
        rw [getElem?_insert_iff, if_pos rfl] at hu
        cases hu
        simp at hv
      · intro hedge
        exact absurd hedge.source_mem h
    · simp only [DependencyGraph.Edge, getElem?_insert_of_ne hu]
  · have hsum := valuesSum_insert_new (v := (∅ : BTreeSet DependencyNodeId))
      (f := Std.ExtTreeSet.size) hnone
    simpa [DependencyGraph.edgeCount] using hsum

def isolatedGraph : DependencyGraph :=
  (∅ : DependencyGraph).insert ⟨"isolated", by decide⟩ ∅

section

variable {s p : KnowledgeStateProjection} {x : DependencyExpansionInvocation}
  {receiptDigest : ActionReceiptDigest} {done : List DependencyEdge} {edge : DependencyEdge}

/-- The number of nodes that still fit. -/
def roomFor (s : KnowledgeStateProjection) : Nat :=
  s.budget.maxDependencyNodes - s.dependencyParents.size

variable {edges : List DependencyEdge}

omit [Platform] in
lemma length_admittedNodes_le : (admittedNodes s x edges).length ≤ roomFor s := by
  unfold admittedNodes
  split
  · rw [length_take]
    exact Nat.min_le_left _ _
  · exact Nat.zero_le _

variable {n : DependencyNodeId}

section

omit [Platform]

lemma mem_of_mem_admittedNodes (h : n ∈ admittedNodes s x edges) :
    n ∈ edges.map DependencyEdge.toNode ∧ n ∉ s.dependencyParents ∧ depthAllows s x = true := by
  unfold admittedNodes at h
  split at h
  · next hdepth =>
    have hmem := mem_of_mem_take h
    rw [mem_filter, decide_eq_true_eq] at hmem
    exact ⟨hmem.1, hmem.2, hdepth⟩
  · simp at h

lemma admittedNodes_append_new (hdepth : depthAllows s x = true)
    (hnew : edge.toNode ∉ s.dependencyParents)
    (hroom : (admittedNodes s x done).length < roomFor s) :
    admittedNodes s x (done ++ [edge]) = admittedNodes s x done ++ [edge.toNode] := by
  unfold admittedNodes at hroom ⊢
  rw [if_pos hdepth] at hroom
  rw [if_pos hdepth, if_pos hdepth, map_append, filter_append, take_append]
  congr 1
  rw [length_take] at hroom
  have hleft : 1 ≤ s.budget.maxDependencyNodes - s.dependencyParents.size -
      ((done.map DependencyEdge.toNode).filter (· ∉ s.dependencyParents)).length := by
    unfold roomFor at hroom
    omega
  have hfilter : [edge].map DependencyEdge.toNode = [edge.toNode] := rfl
  rw [hfilter, filter_cons_of_pos (by simpa using hnew), filter_nil]
  exact take_of_length_le hleft

lemma admittedNodes_append_same (h : edge.toNode ∈ s.dependencyParents ∨
    depthAllows s x = false ∨ roomFor s ≤ (admittedNodes s x done).length) :
    admittedNodes s x (done ++ [edge]) = admittedNodes s x done := by
  unfold admittedNodes at h ⊢
  by_cases hdepth : depthAllows s x = true
  · rw [if_pos hdepth] at h
    rw [if_pos hdepth, if_pos hdepth, map_append, filter_append, take_append]
    rcases h with hknown | hshallow | hfull
    · have hfilter : ([edge].map DependencyEdge.toNode).filter (· ∉ s.dependencyParents) = [] := by
        simp [hknown]
      rw [hfilter, take_nil, append_nil]
    · rw [hdepth] at hshallow
      cases hshallow
    · have hnone : s.budget.maxDependencyNodes - s.dependencyParents.size -
          ((done.map DependencyEdge.toNode).filter (· ∉ s.dependencyParents)).length = 0 := by
        rw [length_take] at hfull
        unfold roomFor at hfull
        omega
      rw [hnone, take_zero, append_nil]
  · rw [if_neg hdepth, if_neg hdepth]

lemma mem_admittedNodes_append (hne : n ≠ edge.toNode) :
    n ∈ admittedNodes s x (done ++ [edge]) ↔ n ∈ admittedNodes s x done := by
  by_cases h : edge.toNode ∈ s.dependencyParents ∨ depthAllows s x = false ∨
      roomFor s ≤ (admittedNodes s x done).length
  · rw [admittedNodes_append_same h]
  · push Not at h
    obtain ⟨hnew, hdepth, hroom⟩ := h
    rw [admittedNodes_append_new (by simpa using hdepth) hnew hroom]
    simp [hne]

lemma linked_append (hfresh : edge.toNode ∉ done.map DependencyEdge.toNode) :
    Linked s x (done ++ [edge]) n ↔ Linked s x done n ∨ n = edge.toNode ∧ ¬Cyclic s x n ∧
        (n ∈ s.dependencyParents ∨ n ∈ admittedNodes s x (done ++ [edge])) := by
  unfold Linked
  rw [map_append, mem_append]
  by_cases hn : n = edge.toNode
  · subst hn
    simp [hfresh]
  · rw [mem_admittedNodes_append hn]
    simp [hn]

end

/-! ## One edge -/

/-- What the reducer relies on: one index, closed and within its bound, in which
    the expanded node has the depth of the invocation. -/
structure ExpandReady (s : KnowledgeStateProjection) (x : DependencyExpansionInvocation) :
    Prop where
  closed : s.dependencyGraph.Closed
  graph_iff : ∀ n : DependencyNodeId, n ∈ s.dependencyGraph ↔ n ∈ s.dependencyParents
  depths_iff : ∀ n : DependencyNodeId, n ∈ s.dependencyDepths ↔ n ∈ s.dependencyParents
  graph_size : s.dependencyGraph.size = s.dependencyParents.size
  parents_le : s.dependencyParents.size ≤ s.budget.maxDependencyNodes
  depth_eq : s.dependencyDepths[x.root]? = some x.depth
  depth_lt : x.depth + 1 < u16Width
  selected : x.binding.obligationId ∈ s.obligations

namespace ExpandReady

section

omit [Platform]

lemma root_mem (hs : ExpandReady s x) : x.root ∈ s.dependencyParents :=
  (hs.depths_iff x.root).mp (mem_iff_getElem?.mpr ⟨x.depth, hs.depth_eq⟩)

lemma mem_of_cyclic (hs : ExpandReady s x) {n : DependencyNodeId} (h : Cyclic s x n) :
    n ∈ s.dependencyParents := by
  rcases ReflTransGen.cases_head h with rfl | ⟨m, hnm, -⟩
  · exact hs.root_mem
  · exact (hs.graph_iff n).mp hnm.source_mem

end

end ExpandReady

namespace Expanded

lemma nil (hs : ExpandReady s x) : Expanded s x receiptDigest [] s := by
  have hnone : admittedNodes s x [] = [] := by
    unfold admittedNodes
    split <;> simp
  have hlinked : ∀ n, ¬Linked s x [] n := fun n hn => by simp [Linked] at hn
  obtain ⟨o, ho⟩ := mem_iff_getElem?.mp hs.selected
  refine ⟨?_, rfl, ⟨o, ho, .inl ⟨ho, by simp⟩⟩, by simp [hlinked], by simp, .inl rfl, by simp⟩
  rw [hnone]
  constructor <;> simp

lemma mem_parents (h : Expanded s x receiptDigest done p) {n : DependencyNodeId} :
    n ∈ p.dependencyParents ↔ n ∈ s.dependencyParents ∨ n ∈ admittedNodes s x done := by
  rw [BTreeMap.mem_iff_getElem?, BTreeMap.mem_iff_getElem?]
  simp only [h.parents]
  constructor
  · rintro ⟨q, hq | ⟨hn, -⟩⟩
    · exact .inl ⟨q, hq⟩
    · exact .inr hn
  · rintro (⟨q, hq⟩ | hn)
    · exact ⟨q, .inl hq⟩
    · exact ⟨some x.root, .inr ⟨hn, rfl⟩⟩

lemma budget_eq (h : Expanded s x receiptDigest done p) : p.budget = s.budget := by
  rw [h.frame]

lemma nodeClaimId_eq (h : Expanded s x receiptDigest done p) (n : DependencyNodeId) :
    nodeClaimId p n = nodeClaimId s n := by
  rw [h.frame]
  rfl

lemma nodeObligationId_eq (h : Expanded s x receiptDigest done p) (n : DependencyNodeId) :
    nodeObligationId p n = nodeObligationId s n := by
  rw [h.frame]
  rfl

lemma closed (hs : ExpandReady s x) (h : Expanded s x receiptDigest done p) :
    p.dependencyGraph.Closed := by
  intro a b hab
  rw [h.graph, hs.graph_iff]
  rcases (h.edges_iff a b).mp hab with hab | ⟨-, -, -, hb⟩
  · exact .inl ((hs.graph_iff b).mp (hs.closed a b hab))
  · exact hb

lemma graph_size_le (hs : ExpandReady s x) (h : Expanded s x receiptDigest done p) :
    p.dependencyGraph.size ≤ p.budget.maxDependencyNodes := by
  have hroom : (admittedNodes s x done).length ≤ roomFor s := length_admittedNodes_le
  have hle := hs.parents_le
  rw [h.graph_size, hs.graph_size, h.budget_eq]
  unfold roomFor at hroom
  omega

lemma reaches_root (h : Expanded s x receiptDigest done p) {n : DependencyNodeId} :
    ReflTransGen p.dependencyGraph.Edge n x.root ↔ Cyclic s x n := by
  constructor
  · intro hn
    induction hn using ReflTransGen.head_induction_on with
    | refl => exact ReflTransGen.refl
    | head hab _ ih =>
      rcases (h.edges_iff _ _).mp hab with hab | ⟨rfl, -⟩
      · exact ReflTransGen.head hab ih
      · exact ReflTransGen.refl
  · intro hn
    exact ReflTransGen.mono (fun a b hab => (h.edges_iff a b).mpr (.inl hab)) n x.root hn

lemma acyclic (h : Expanded s x receiptDigest done p) (hs : Acyclic s.dependencyGraph.Edge) :
    Acyclic p.dependencyGraph.Edge :=
  hs.insertEdges (fun a b hab => (h.edges_iff a b).mp hab) fun _ ht => ht.2.1

lemma closesCycle_eq (hs : ExpandReady s x) (h : Expanded s x receiptDigest done p)
    (hfrom : edge.fromNode = x.root) :
    ∃ cyclic, closesCycle p edge = .ok cyclic ∧ (cyclic = true ↔ Cyclic s x edge.toNode) := by
  unfold closesCycle
  rw [hfrom]
  split
  · next heq =>
    refine ⟨true, rfl, ?_⟩
    rw [heq]
    simp only [true_iff]
    exact ReflTransGen.refl
  · obtain ⟨found, hrun, hfound⟩ := dependencyGraphReachable_eq (h.closed hs) (h.graph_size_le hs)
      edge.toNode x.root
    exact ⟨found, hrun, hfound.trans h.reaches_root⟩

omit [Platform] in
lemma selected_concat {P : Prop} {Q : DependencyEdge → Prop}
    (h : (P ∧ ∀ e ∈ done, ¬Cyclic s x e.toNode) ∨ ∃ e ∈ done, Q e)
    (hacyclic : ¬Cyclic s x edge.toNode) :
    (P ∧ ∀ e ∈ done ++ [edge], ¬Cyclic s x e.toNode) ∨ ∃ e ∈ done ++ [edge], Q e := by
  refine h.imp ?_ ?_
  · rintro ⟨hp, hall⟩
    exact ⟨hp, forall_mem_concat hall hacyclic⟩
  · rintro ⟨e, he, hq⟩
    exact ⟨e, mem_append_left _ he, hq⟩

lemma block (hs : ExpandReady s x) (h : Expanded s x receiptDigest done p)
    (hfresh : edge.toNode ∉ done.map DependencyEdge.toNode) (hcyclic : Cyclic s x edge.toNode)
    {changes : TransitionChanges} :
    ∃ acc', blockOnCycle x.binding.obligationId receiptDigest (p, changes) edge = .ok acc' ∧
      Expanded s x receiptDigest (done ++ [edge]) acc'.1 := by
  have hadm : admittedNodes s x (done ++ [edge]) = admittedNodes s x done :=
    admittedNodes_append_same (.inl (hs.mem_of_cyclic hcyclic))
  have hlinked : ∀ n, Linked s x (done ++ [edge]) n ↔ Linked s x done n := by
    intro n
    rw [linked_append hfresh]
    refine or_iff_left ?_
    rintro ⟨rfl, hn, -⟩
    exact hn hcyclic
  obtain ⟨o, ho, hselected⟩ := h.selected
  -- blocked before or not, the obligation keeps its attempts and witnesses
  obtain ⟨current, hcurrent, hcount, hwitnesses, hrest⟩ : ∃ current,
      p.obligations[x.binding.obligationId]? = some current ∧
        current.state.attempts = o.state.attempts ∧ current.state.witnesses = o.state.witnesses ∧
        { current with state := o.state } = o := by
    rcases hselected with ⟨hp, -⟩ | ⟨e, -, -, hp⟩
    · exact ⟨o, hp, rfl, rfl, rfl⟩
    · exact ⟨_, hp, rfl, rfl, rfl⟩
  refine ⟨_, by rw [blockOnCycle, hcurrent]; rfl, ?_⟩
  refine ⟨?_, ?_, ?_, ?_, ?_, h.bounded, ?_⟩
  · rw [hadm]
    refine { h.toAdmitted with obligations := ?_, obligations_size := ?_ }
    · intro id o' hid
      rw [getElem?_insert_of_ne (Ne.symm hid)]
      exact h.obligations id o' hid
    · refine Eq.trans (size_insert_old ?_) h.obligations_size
      exact mem_iff_getElem?.mpr ⟨current, hcurrent⟩
  · conv_lhs => rw [h.frame]
  · refine ⟨o, ho, .inr ⟨edge, by simp, hcyclic, ?_⟩⟩
    rw [getElem?_insert_iff, if_pos rfl, hcount, hwitnesses, ← hrest]
  · intro a b
    rw [hlinked]
    exact h.edges_iff a b
  · rw [length_append, ← Nat.add_assoc]
    exact Nat.le_add_right_of_le h.edgeCount_le
  · simp only [hlinked, forall_mem_append, forall_mem_singleton]
    exact ⟨h.accounted, .inl hcyclic⟩

lemma link (h : Expanded s x receiptDigest done p)
    (hfresh : edge.toNode ∉ done.map DependencyEdge.toNode) (hacyclic : ¬Cyclic s x edge.toNode)
    (hknown : edge.toNode ∈ s.dependencyParents) {graph : DependencyGraph}
    (hgraph : EdgeAdded p.dependencyGraph graph x.root edge.toNode) :
    Expanded s x receiptDigest (done ++ [edge]) { p with dependencyGraph := graph } := by
  have hadm : admittedNodes s x (done ++ [edge]) = admittedNodes s x done :=
    admittedNodes_append_same (.inl hknown)
  have hlinked : ∀ n, Linked s x (done ++ [edge]) n ↔ Linked s x done n ∨ n = edge.toNode := by
    intro n
    rw [linked_append hfresh]
    refine or_congr_right ⟨fun hn => hn.1, ?_⟩
    rintro rfl
    exact ⟨rfl, hacyclic, .inl hknown⟩
  obtain ⟨o, ho, hselected⟩ := h.selected
  refine ⟨?_, ?_, ⟨o, ho, ?_⟩, ?_, ?_, h.bounded, ?_⟩
  · rw [hadm]
    refine { h.toAdmitted with graph := ?_, graph_size := ?_ }
    · intro n
      exact (hgraph.mem_iff n).trans (h.graph n)
    · exact hgraph.size_eq.trans h.graph_size
  · conv_lhs => rw [h.frame]
  · exact selected_concat hselected hacyclic
  · intro a b
    rw [hlinked, hgraph.edge_iff, h.edges_iff, or_assoc, ← and_or_left]
  · have hle := h.edgeCount_le
    have hgle := hgraph.edgeCount_le
    rw [length_append, length_singleton]
    simp only
    omega
  · simp only [hlinked, forall_mem_append, forall_mem_singleton]
    refine ⟨?_, .inr (.inl (.inr trivial))⟩
    intro e he
    exact (h.accounted e he).imp_right (Or.imp_left .inl)

lemma bound (h : Expanded s x receiptDigest done p)
    (hfresh : edge.toNode ∉ done.map DependencyEdge.toNode) (hacyclic : ¬Cyclic s x edge.toNode)
    (hnew : edge.toNode ∉ s.dependencyParents)
    (hlimit : depthAllows s x = false ∨ roomFor s ≤ (admittedNodes s x done).length)
    (reason : BoundedUnknownReason) :
    Expanded s x receiptDigest (done ++ [edge]) { p with boundedReason := some reason } := by
  have hadm : admittedNodes s x (done ++ [edge]) = admittedNodes s x done :=
    admittedNodes_append_same (.inr hlimit)
  have hlinked : ∀ n, Linked s x (done ++ [edge]) n ↔ Linked s x done n := by
    intro n
    rw [linked_append hfresh, hadm]
    refine or_iff_left ?_
    rintro ⟨rfl, -, hn | hn⟩
    · exact hnew hn
    · exact hfresh (mem_of_mem_admittedNodes hn).1
  obtain ⟨o, ho, hselected⟩ := h.selected
  refine ⟨?_, ?_, ⟨o, ho, ?_⟩, ?_, ?_, .inr (by simp), ?_⟩
  · rw [hadm]
    exact { h.toAdmitted with }
  · conv_lhs => rw [h.frame]
  · exact selected_concat hselected hacyclic
  · intro a b
    rw [hlinked]
    exact h.edges_iff a b
  · rw [length_append, ← Nat.add_assoc]
    exact Nat.le_add_right_of_le h.edgeCount_le
  · intro e _
    exact .inr (.inr (by simp))

section

variable (hs : ExpandReady s x) (h : Expanded s x receiptDigest done p)
  (hfresh : edge.toNode ∉ done.map DependencyEdge.toNode) (hfrom : edge.fromNode = x.root)
include hs h hfresh hfrom

lemma admitted (hacyclic : ¬Cyclic s x edge.toNode) (hnew : edge.toNode ∉ s.dependencyParents)
    (hdepth : depthAllows s x = true) (hroom : (admittedNodes s x done).length < roomFor s)
    (hids : FreshNode p edge.toNode) {changes : TransitionChanges} :
    ∃ acc', admitNode x.maxDepth (x.depth + 1) (p, changes) edge = .ok acc' ∧
      Expanded s x receiptDigest (done ++ [edge]) acc'.1 := by
  have hadm : admittedNodes s x (done ++ [edge]) = admittedNodes s x done ++ [edge.toNode] :=
    admittedNodes_append_new hdepth hnew hroom
  have hmem : ∀ n, n ∈ admittedNodes s x (done ++ [edge]) ↔
      n ∈ admittedNodes s x done ∨ n = edge.toNode := by
    intro n
    rw [hadm, mem_append, mem_singleton]
  have hlinked : ∀ n, Linked s x (done ++ [edge]) n ↔ Linked s x done n ∨ n = edge.toNode := by
    intro n
    rw [linked_append hfresh]
    refine or_congr_right ⟨fun hn => hn.1, ?_⟩
    rintro rfl
    exact ⟨rfl, hacyclic, .inr ((hmem _).mpr (.inr rfl))⟩
  have hunlisted : edge.toNode ∉ admittedNodes s x done :=
    fun hn => hfresh (mem_of_mem_admittedNodes hn).1
  have hparent : edge.toNode ∉ p.dependencyParents := fun hn =>
    (h.mem_parents.mp hn).elim hnew hunlisted
  have hgraph : edge.toNode ∉ p.dependencyGraph := fun hn =>
    ((h.graph _).mp hn).elim (fun hn => hnew ((hs.graph_iff _).mp hn)) hunlisted
  have hdepths : edge.toNode ∉ p.dependencyDepths := by
    intro hn
    obtain ⟨d, hd⟩ := mem_iff_getElem?.mp hn
    rcases (h.depths _ _).mp hd with hd | ⟨hn, -⟩
    · exact hnew ((hs.depths_iff _).mp (mem_iff_getElem?.mpr ⟨d, hd⟩))
    · exact hunlisted hn
  -- the graph with the node has the expanded node as a source
  have hnode := nodeAdded_insert hgraph
  have hroot : x.root ∈ p.dependencyGraph.insert edge.toNode ∅ :=
    (hnode.mem_iff _).mpr (.inl ((h.graph _).mpr (.inl ((hs.graph_iff _).mpr hs.root_mem))))
  obtain ⟨targets, htargets⟩ := mem_iff_getElem?.mp hroot
  have hlink : linkDependency (p.dependencyGraph.insert edge.toNode ∅) edge.fromNode edge.toNode =
      .ok ((p.dependencyGraph.insert edge.toNode ∅).insert x.root (targets.insert edge.toNode)) := by
    rw [hfrom]
    exact linkDependency_ok.mpr ⟨targets, htargets, rfl⟩
  have hedge := linkDependency_spec hlink
  rw [hfrom] at hedge
  obtain ⟨hclaimId, hobligationId⟩ := hids
  refine ⟨_, by
    rw [admitNode]
    simp only [hclaimId, hobligationId, or_self, failIf, if_false, dependencyClosurePredicate_eq,
      hlink, ok_bind]
    rfl, ?_⟩
  rw [h.nodeClaimId_eq] at hclaimId ⊢
  rw [h.nodeObligationId_eq] at hobligationId ⊢
  obtain ⟨o, ho, hselected⟩ := h.selected
  have hother : x.binding.obligationId ≠ nodeObligationId s edge.toNode := by
    intro heq
    rw [← heq] at hobligationId
    rcases hselected with ⟨hp, -⟩ | ⟨e, -, -, hp⟩
    · exact hobligationId (mem_iff_getElem?.mpr ⟨_, hp⟩)
    · exact hobligationId (mem_iff_getElem?.mpr ⟨_, hp⟩)
  have hsize : ∀ n, n = (admittedNodes s x done).length →
      n + 1 = (admittedNodes s x (done ++ [edge])).length := by
    rintro n rfl
    rw [hadm, length_append, length_singleton]
  refine ⟨⟨?_, ?_, ?_, ?_, ?_, ?_, ?_, ?_, ?_, ?_, ?_⟩, ?_, ⟨o, ho, ?_⟩, ?_, ?_, h.bounded, ?_⟩
  · intro n hn
    rcases (hmem n).mp hn with hn | rfl
    · exact h.fresh n hn
    · refine ⟨fun hc => ?_, fun hc => ?_⟩
      · obtain ⟨c, hc⟩ := mem_iff_getElem?.mp hc
        exact hclaimId (mem_iff_getElem?.mpr ⟨c, (h.claims _ _).mpr (.inl hc)⟩)
      · obtain ⟨o', ho'⟩ := mem_iff_getElem?.mp hc
        exact hobligationId (mem_iff_getElem?.mpr
          ⟨o', (h.obligations _ _ (Ne.symm hother)).mpr (.inl ho')⟩)
  · intro id c
    simp only [getElem?_insert_new hclaimId, h.claims, hmem, or_and_right, exists_or,
      exists_eq_left, or_assoc]
    rfl
  · rw [size_insert_new hclaimId, h.claims_size, Nat.add_assoc, hsize _ rfl]
  · intro id o' hid
    simp only [getElem?_insert_new hobligationId, h.obligations id o' hid, hmem,
      or_and_right, exists_or, exists_eq_left, or_assoc]
    rfl
  · rw [size_insert_new hobligationId, h.obligations_size, Nat.add_assoc, hsize _ rfl]
  · intro n q
    simp only [getElem?_insert_new hparent, h.parents, hmem, hfrom, or_and_right, or_assoc]
  · rw [size_insert_new hparent, h.parents_size, Nat.add_assoc, hsize _ rfl]
  · intro n d
    simp only [getElem?_insert_new hdepths, h.depths, hmem, or_and_right, or_assoc]
  · rw [size_insert_new hdepths, h.depths_size, Nat.add_assoc, hsize _ rfl]
  · intro n
    simp only [hedge.mem_iff, hnode.mem_iff, h.graph, hmem, or_assoc]
  · simp only
    rw [hedge.size_eq, hnode.size_eq, h.graph_size, Nat.add_assoc, hsize _ rfl]
  · conv_lhs => rw [h.frame]
  · simp only [getElem?_insert_of_ne (Ne.symm hother)]
    exact selected_concat hselected hacyclic
  · intro a b
    rw [hlinked, hedge.edge_iff, hnode.edge_iff, h.edges_iff, or_assoc, ← and_or_left]
  · have hle := h.edgeCount_le
    have hgle := hedge.edgeCount_le
    rw [hnode.edgeCount_eq] at hgle
    rw [length_append, length_singleton]
    simp only
    omega
  · simp only [hlinked, forall_mem_append, forall_mem_singleton]
    refine ⟨?_, .inr (.inl (.inr trivial))⟩
    intro e he
    exact (h.accounted e he).imp_right (Or.imp_left .inl)

lemma expandEdge_cases (changes : TransitionChanges) :
    (∃ acc', expandEdge x x.depth receiptDigest (p, changes) edge = .ok acc' ∧
        Expanded s x receiptDigest (done ++ [edge]) acc'.1) ∨
      expandEdge x x.depth receiptDigest (p, changes) edge =
          admitNode x.maxDepth (x.depth + 1) (p, changes) edge ∧ (FreshNode p edge.toNode →
          ∃ acc', admitNode x.maxDepth (x.depth + 1) (p, changes) edge = .ok acc' ∧
            Expanded s x receiptDigest (done ++ [edge]) acc'.1) := by
  obtain ⟨cyclic, hrun, hcyclic⟩ := h.closesCycle_eq hs hfrom
  have hguard : failIf (edge.fromNode ≠ x.root) (integrity "dependency_edge_source_mismatch") =
      .ok () := failIf_ok.mpr (not_not.mpr hfrom)
  unfold expandEdge
  simp only [hguard, hrun, ok_bind]
  cases cyclic with
  | true =>
    rw [if_pos rfl]
    exact .inl (h.block hs hfresh (hcyclic.mp rfl))
  | false =>
    rw [if_neg Bool.false_ne_true]
    have hacyclic : ¬Cyclic s x edge.toNode := fun hc => Bool.false_ne_true (hcyclic.mpr hc)
    by_cases hknown : edge.toNode ∈ p.dependencyParents
    · -- a node that this list has not named was known before
      rw [if_pos hknown]
      have hold : edge.toNode ∈ s.dependencyParents :=
        (h.mem_parents.mp hknown).resolve_right fun hn =>
          hfresh (mem_of_mem_admittedNodes hn).1
      have hroot : x.root ∈ p.dependencyGraph :=
        (h.graph _).mpr (.inl ((hs.graph_iff _).mpr hs.root_mem))
      obtain ⟨targets, htargets⟩ := mem_iff_getElem?.mp hroot
      have hlink := linkDependency_ok.mpr
        ⟨targets, htargets, (rfl : _ = p.dependencyGraph.insert x.root (targets.insert edge.toNode))⟩
      rw [hfrom, hlink]
      exact .inl ⟨_, rfl, h.link hfresh hacyclic hold (linkDependency_spec hlink)⟩
    · rw [if_neg hknown]
      have hnew : edge.toNode ∉ s.dependencyParents :=
        fun hn => hknown (h.mem_parents.mpr (.inl hn))
      have hdepthAdd : checkedAdd u16Width x.depth 1 (invalid "dependency_depth_overflow") =
          .ok (x.depth + 1) := checkedAdd_ok.mpr ⟨hs.depth_lt, rfl⟩
      rw [hdepthAdd, ok_bind]
      split
      · next hdeep =>
        rw [h.budget_eq] at hdeep
        have hshallow : depthAllows s x = false := by
          simp only [depthAllows, Bool.and_eq_false_iff, decide_eq_false_iff_not, not_le]
          exact hdeep
        exact .inl ⟨_, rfl, h.bound hfresh hacyclic hnew (.inl hshallow) _⟩
      · next hdepth =>
        rw [h.budget_eq] at hdepth
        have hallows : depthAllows s x = true := by
          simp only [depthAllows, Bool.and_eq_true, decide_eq_true_eq]
          push Not at hdepth
          exact hdepth
        split
        · next hfull =>
          rw [h.budget_eq, h.parents_size] at hfull
          have hroom : roomFor s ≤ (admittedNodes s x done).length := by
            unfold roomFor
            omega
          exact .inl ⟨_, rfl, h.bound hfresh hacyclic hnew (.inr hroom) _⟩
        · next hspace =>
          rw [h.budget_eq, h.parents_size] at hspace
          have hroom : (admittedNodes s x done).length < roomFor s := by
            unfold roomFor
            omega
          exact .inr ⟨rfl, fun hids => h.admitted hs hfresh hfrom hacyclic hnew hallows hroom hids⟩

end

end Expanded

variable {acc acc' : Reduction}

lemma freshNode_of_admitNode {maxDepth childDepth : Nat}
    (h : admitNode maxDepth childDepth acc edge = .ok acc') : FreshNode acc.1 edge.toNode := by
  simp only [admitNode, bind_ok, failIf_ok, not_or] at h
  obtain ⟨_, hids, -⟩ := h
  exact hids

lemma expandEdge_from {depth : Nat} (h : expandEdge x depth receiptDigest acc edge = .ok acc') :
    edge.fromNode = x.root := by
  simp only [expandEdge, bind_ok, failIf_ok, not_not, ne_eq] at h
  obtain ⟨_, hfrom, -⟩ := h
  exact hfrom

lemma expandEdge_spec (hs : ExpandReady s x) (h : Expanded s x receiptDigest done acc.1)
    (hfresh : edge.toNode ∉ done.map DependencyEdge.toNode)
    (hrun : expandEdge x x.depth receiptDigest acc edge = .ok acc') :
    Expanded s x receiptDigest (done ++ [edge]) acc'.1 := by
  obtain ⟨p, changes⟩ := acc
  have hfrom := expandEdge_from hrun
  rcases h.expandEdge_cases hs hfresh hfrom changes with ⟨acc₁, hacc, hp⟩ | ⟨heq, hadmit⟩
  · rw [hacc] at hrun
    cases hrun
    exact hp
  · rw [heq] at hrun
    obtain ⟨acc₁, hacc, hp⟩ := hadmit (freshNode_of_admitNode hrun)
    rw [hacc] at hrun
    cases hrun
    exact hp

lemma expandEdge_ok (hs : ExpandReady s x) {acc : Reduction}
    (h : Expanded s x receiptDigest done acc.1)
    (hfresh : edge.toNode ∉ done.map DependencyEdge.toNode) (hfrom : edge.fromNode = x.root)
    (hids : FreshNode acc.1 edge.toNode) :
    ∃ acc', expandEdge x x.depth receiptDigest acc edge = .ok acc' ∧
      Expanded s x receiptDigest (done ++ [edge]) acc'.1 := by
  obtain ⟨p, changes⟩ := acc
  rcases h.expandEdge_cases hs hfresh hfrom changes with hok | ⟨heq, hadmit⟩
  · exact hok
  · rw [heq]
    exact hadmit hids

/-! ## All edges -/

lemma expandEdges_spec (hs : ExpandReady s x) {changes : TransitionChanges} {acc' : Reduction}
    (hnodup : (edges.map DependencyEdge.toNode).Nodup)
    (hrun : edges.foldlM (expandEdge x x.depth receiptDigest) (s, changes) = .ok acc') :
    Expanded s x receiptDigest edges acc'.1 := by
  induction edges using reverseRec generalizing acc' with
  | nil =>
    rw [foldlM_nil, pure_ok] at hrun
    subst hrun
    exact Expanded.nil hs
  | append_singleton edges edge ih =>
    rw [foldlM_append, bind_ok] at hrun
    obtain ⟨acc, hdone, hedge⟩ := hrun
    rw [foldlM_cons, bind_ok] at hedge
    obtain ⟨acc₁, hedge, hlast⟩ := hedge
    rw [foldlM_nil, pure_ok] at hlast
    subst hlast
    rw [map_append, nodup_append] at hnodup
    have hfresh : edge.toNode ∉ edges.map DependencyEdge.toNode :=
      fun hn => hnodup.2.2 _ hn _ (by simp) rfl
    exact expandEdge_spec hs (ih hnodup.1 hdone) hfresh hedge

/-- The identities derived for a list of nodes are new and pairwise distinct. -/
structure FreshNodes (s : KnowledgeStateProjection) (nodes : List DependencyNodeId) : Prop where
  fresh : ∀ n ∈ nodes, FreshNode s n
  claims_nodup : (nodes.map (nodeClaimId s)).Nodup
  obligations_nodup : (nodes.map (nodeObligationId s)).Nodup

lemma FreshNodes.of_append {nodes more : List DependencyNodeId}
    (h : FreshNodes s (nodes ++ more)) : FreshNodes s nodes := by
  refine ⟨fun n hn => h.fresh n (mem_append_left _ hn), ?_, ?_⟩
  · have hclaims := h.claims_nodup
    rw [map_append, nodup_append] at hclaims
    exact hclaims.1
  · have hobligations := h.obligations_nodup
    rw [map_append, nodup_append] at hobligations
    exact hobligations.1

lemma Expanded.freshNode (hs : ExpandReady s x) (h : Expanded s x receiptDigest done p)
    (hids : FreshNodes s ((done ++ [edge]).map DependencyEdge.toNode)) :
    FreshNode p edge.toNode := by
  have hold := hids.fresh edge.toNode (by simp)
  have hclaims := hids.claims_nodup
  have hobligations := hids.obligations_nodup
  rw [map_append, map_append, nodup_append] at hclaims hobligations
  constructor
  · rw [h.nodeClaimId_eq]
    intro hmem
    obtain ⟨c, hc⟩ := mem_iff_getElem?.mp hmem
    rcases (h.claims _ _).mp hc with hc | ⟨n, hn, heq, -⟩
    · exact hold.1 (mem_iff_getElem?.mpr ⟨c, hc⟩)
    · exact hclaims.2.2 _ (mem_map_of_mem (mem_of_mem_admittedNodes hn).1) _ (by simp) heq.symm
  · rw [h.nodeObligationId_eq]
    intro hmem
    obtain ⟨o, ho⟩ := mem_iff_getElem?.mp hmem
    have hother : nodeObligationId s edge.toNode ≠ x.binding.obligationId :=
      fun heq => hold.2 (heq ▸ hs.selected)
    rcases (h.obligations _ _ hother).mp ho with ho | ⟨n, hn, heq, -⟩
    · exact hold.2 (mem_iff_getElem?.mpr ⟨o, ho⟩)
    · exact hobligations.2.2 _ (mem_map_of_mem (mem_of_mem_admittedNodes hn).1) _ (by simp)
        heq.symm

/-- The loop returns where the derived identities are fresh. -/
lemma expandEdges_ok (receiptDigest : ActionReceiptDigest) (changes : TransitionChanges)
    (hs : ExpandReady s x) (hnodup : (edges.map DependencyEdge.toNode).Nodup)
    (hsources : ∀ e ∈ edges, e.fromNode = x.root)
    (hids : FreshNodes s (edges.map DependencyEdge.toNode)) :
    ∃ acc', edges.foldlM (expandEdge x x.depth receiptDigest) (s, changes) = .ok acc' := by
  suffices h : ∃ acc', edges.foldlM (expandEdge x x.depth receiptDigest) (s, changes) = .ok acc' ∧
      Expanded s x receiptDigest edges acc'.1 from h.imp fun _ h => h.1
  induction edges using reverseRec with
  | nil => exact ⟨_, rfl, Expanded.nil hs⟩
  | append_singleton edges edge ih =>
    have hparts := hnodup
    rw [map_append, nodup_append] at hparts
    have hids' : FreshNodes s (edges.map DependencyEdge.toNode) := by
      rw [map_append] at hids
      exact hids.of_append
    obtain ⟨acc, hrun, hp⟩ := ih hparts.1
      (fun e he => hsources e (mem_append_left _ he)) hids'
    have hfresh : edge.toNode ∉ edges.map DependencyEdge.toNode :=
      fun hn => hparts.2.2 _ hn _ (by simp) rfl
    obtain ⟨acc', hedge, hp'⟩ := expandEdge_ok hs hp hfresh
      (hsources edge (by simp)) (hp.freshNode hs hids)
    refine ⟨acc', ?_, hp'⟩
    rw [foldlM_append, hrun, ok_bind, foldlM_cons, hedge]
    rfl

omit [Platform] in
lemma nodup_toNode {edges : BTreeSet DependencyEdge}
    (hsources : ∀ e ∈ edges.toList, e.fromNode = x.root) :
    (edges.toList.map DependencyEdge.toNode).Nodup := by
  refine Nodup.map_on ?_ (BTreeSet.nodup_toList edges)
  rintro ⟨a, b⟩ ha ⟨c, d⟩ hc rfl
  have hac : a = c := (hsources _ ha).trans (hsources _ hc).symm
  rw [hac]

end

end

end Tidex.Knowledge
