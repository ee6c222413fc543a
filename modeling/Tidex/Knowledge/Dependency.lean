/-
  Knowledge.Dependency — the traversals of the dependency graph.
-/
import Tidex.Knowledge.Types
import Tidex.Lib.Digraph

namespace Tidex.Knowledge

open Tidex.Lib Relation List Option BTreeMap Std.ExtTreeMap Std.ExtTreeSet Nat BTreeSet

/-! ## Edges -/

def DependencyGraph.Edge (graph : DependencyGraph) (a b : DependencyNodeId) : Prop :=
  ∃ targets, graph[a]? = some targets ∧ b ∈ targets

def DependencyGraph.Closed (graph : DependencyGraph) : Prop :=
  ∀ a b, graph.Edge a b → b ∈ graph

variable {graph : DependencyGraph}

lemma DependencyGraph.Edge.source_mem {a b : DependencyNodeId} (h : graph.Edge a b) :
    a ∈ graph := by
  obtain ⟨targets, ha, -⟩ := h
  exact mem_iff_getElem?.mpr ⟨targets, ha⟩

variable {targets : BTreeSet DependencyNodeId}

lemma DependencyGraph.edge_iff {a b : DependencyNodeId} (h : graph[a]? = some targets) :
    graph.Edge a b ↔ b ∈ targets := by
  constructor
  · rintro ⟨targets', ha, hb⟩
    rw [h] at ha
    cases ha
    exact hb
  · intro hb
    exact ⟨targets, h, hb⟩

def dependencyEdgeCount (graph : DependencyGraph) : BrainResult Nat :=
  (BTreeMap.values graph).foldlM
    (fun total targets =>
      checkedAdd u64Width total targets.size (invalid "dependency_edge_count_overflow")) 0

def DependencyGraph.edgeCount (graph : DependencyGraph) : Nat :=
  valuesSum graph Std.ExtTreeSet.size

lemma foldlM_checkedAdd_ok {sizes : List (BTreeSet DependencyNodeId)} {start n : Nat}
    {e : BrainError} :
    sizes.foldlM (fun total targets => checkedAdd u64Width total targets.size e) start = .ok n ↔
      n = start + (sizes.map Std.ExtTreeSet.size).sum ∧
        (sizes = [] ∨ start + (sizes.map Std.ExtTreeSet.size).sum < u64Width) := by
  induction sizes generalizing start with
  | nil =>
    rw [foldlM_nil, pure_ok]
    simp [eq_comm]
  | cons t ts ih =>
    rw [foldlM_cons, bind_ok]
    simp only [checkedAdd_ok, ih, map_cons, sum_cons, cons_ne_nil, false_or]
    constructor
    · rintro ⟨m, ⟨hm, rfl⟩, rfl, hrest⟩
      refine ⟨by omega, ?_⟩
      rcases hrest with rfl | hrest
      · simpa using hm
      · omega
    · rintro ⟨rfl, hlt⟩
      exact ⟨start + t.size, ⟨by omega, rfl⟩, by omega, .inr (by omega)⟩

lemma dependencyEdgeCount_eq (h : graph.edgeCount < u64Width) :
    dependencyEdgeCount graph = .ok graph.edgeCount := by
  rw [dependencyEdgeCount, foldlM_checkedAdd_ok]
  refine ⟨by rw [zero_add]; rfl, .inr ?_⟩
  rw [zero_add]
  exact h

lemma eq_edgeCount_of_ok {n : Nat} (h : dependencyEdgeCount graph = .ok n) :
    n = graph.edgeCount := by
  rw [dependencyEdgeCount, foldlM_checkedAdd_ok, zero_add] at h
  exact h.1

/-! ## The depth-first search -/

/-- The search loop: `pending` is the stack, top first. -/
def reachableLoop (graph : DependencyGraph) (target : DependencyNodeId) (maxNodes : Nat) :
    Nat → List DependencyNodeId → BTreeSet DependencyNodeId → BrainResult Bool
  | _, [], _ => .ok false
  | 0, _ :: _, _ => .ok false
  | fuel + 1, node :: pending, visited =>
    if node ∈ visited then reachableLoop graph target maxNodes fuel pending visited
    else do
      let visited := visited.insert node
      failIf (visited.size > maxNodes) (integrity "dependency_graph_traversal_limit_exceeded")
      let targets ← okOr graph[node]? (integrity "dependency_graph_node_missing")
      if target ∈ targets then return true
      else reachableLoop graph target maxNodes fuel (targets.toList ++ pending) visited

/-- One pop for the start and one for every edge. -/
def reachableFuel (graph : DependencyGraph) : Nat :=
  graph.edgeCount + 1

def dependencyGraphReachable (graph : DependencyGraph) (start target : DependencyNodeId)
    (maxNodes : Nat) : BrainResult Bool :=
  if start = target then .ok true
  else if start ∉ graph then .ok false
  else reachableLoop graph target maxNodes (reachableFuel graph) [start] ∅

def unvisitedEdges (graph : DependencyGraph) (visited : BTreeSet DependencyNodeId) : Nat :=
  valuesSum (graph.filter fun node _ => node ∉ visited) Std.ExtTreeSet.size

lemma unvisitedEdges_empty (graph : DependencyGraph) :
    unvisitedEdges graph ∅ = graph.edgeCount := by
  have hall : (graph.filter fun node _ => node ∉ (∅ : BTreeSet DependencyNodeId)) = graph := by
    apply Std.ExtTreeMap.ext_getElem?
    intro node
    rw [Std.ExtTreeMap.getElem?_filter']
    cases graph[node]? <;> simp
  rw [unvisitedEdges, hall, DependencyGraph.edgeCount]

variable {node : DependencyNodeId}

lemma unvisitedEdges_insert {visited : BTreeSet DependencyNodeId} (hnew : node ∉ visited)
    (hnode : graph[node]? = some targets) :
    unvisitedEdges graph (visited.insert node) + targets.size = unvisitedEdges graph visited := by
  have hsplit : (graph.filter fun n _ => n ∉ visited) =
      (graph.filter fun n _ => n ∉ visited.insert node).insert node targets := by
    apply Std.ExtTreeMap.ext_getElem?
    intro n
    rw [getElem?_insert_iff, Std.ExtTreeMap.getElem?_filter', Std.ExtTreeMap.getElem?_filter']
    by_cases hn : node = n
    · subst hn
      simp [hnode, hnew]
    · simp [hn, Std.LawfulEqCmp.compare_eq_iff_eq]
  have hfresh : (graph.filter fun n _ => n ∉ visited.insert node)[node]? = none := by
    rw [Std.ExtTreeMap.getElem?_filter']
    simp [hnode]
  rw [unvisitedEdges, unvisitedEdges, hsplit, valuesSum_insert_new hfresh]
  omega

/-- What the search keeps: everything seen is reachable, no visited node has the
    target as a successor, and the successors of visited nodes are seen. -/
structure SearchInv (graph : DependencyGraph) (start target : DependencyNodeId)
    (pending : List DependencyNodeId) (visited : BTreeSet DependencyNodeId) : Prop where
  indexed : ∀ node, node ∈ pending ∨ node ∈ visited → node ∈ graph
  reached : ∀ node, node ∈ pending ∨ node ∈ visited → ReflTransGen graph.Edge start node
  started : start ∈ pending ∨ start ∈ visited
  target_new : target ∉ visited ∧ target ∉ pending
  successors : ∀ a b, a ∈ visited → graph.Edge a b → b ∈ pending ∨ b ∈ visited

namespace SearchInv

variable {graph : DependencyGraph} {start target node : DependencyNodeId}
  {pending : List DependencyNodeId} {visited targets : BTreeSet DependencyNodeId}

lemma skip (h : SearchInv graph start target (node :: pending) visited)
    (hvisited : node ∈ visited) : SearchInv graph start target pending visited where
  indexed n hn := h.indexed n (hn.imp_left (mem_cons_of_mem _))
  reached n hn := h.reached n (hn.imp_left (mem_cons_of_mem _))
  started := by
    rcases h.started with hs | hs
    · rcases mem_cons.mp hs with rfl | hs
      · exact .inr hvisited
      · exact .inl hs
    · exact .inr hs
  target_new := ⟨h.target_new.1, fun ht => h.target_new.2 (mem_cons_of_mem _ ht)⟩
  successors := by
    intro a b ha hab
    rcases h.successors a b ha hab with hb | hb
    · rcases mem_cons.mp hb with rfl | hb
      · exact .inr hvisited
      · exact .inl hb
    · exact .inr hb

/-- Visiting a node that does not lead to the target keeps the invariant: its
    successors join the pending entries. -/
lemma visit (hclosed : graph.Closed) (h : SearchInv graph start target (node :: pending) visited)
    (htargets : graph[node]? = some targets) (htarget : target ∉ targets) :
    SearchInv graph start target (targets.toList ++ pending) (visited.insert node) := by
  have hedge : ∀ n, n ∈ targets.toList → graph.Edge node n := fun n hn =>
    ⟨targets, htargets, mem_toList.mp hn⟩
  have hnode : ReflTransGen graph.Edge start node := h.reached node (.inl (by simp))
  refine ⟨?_, ?_, ?_, ⟨?_, ?_⟩, ?_⟩
  · rintro n (hn | hn)
    · rcases mem_append.mp hn with hn | hn
      · exact hclosed node n (hedge n hn)
      · exact h.indexed n (.inl (mem_cons_of_mem _ hn))
    · rcases mem_insert_iff.mp hn with rfl | hn
      · exact h.indexed n (.inl (by simp))
      · exact h.indexed n (.inr hn)
  · rintro n (hn | hn)
    · rcases mem_append.mp hn with hn | hn
      · exact hnode.tail (hedge n hn)
      · exact h.reached n (.inl (mem_cons_of_mem _ hn))
    · rcases mem_insert_iff.mp hn with rfl | hn
      · exact hnode
      · exact h.reached n (.inr hn)
  · rcases h.started with hs | hs
    · rcases mem_cons.mp hs with rfl | hs
      · exact .inr (mem_insert_iff.mpr (.inl rfl))
      · exact .inl (mem_append_right _ hs)
    · exact .inr (mem_insert_iff.mpr (.inr hs))
  · intro ht
    rcases mem_insert_iff.mp ht with rfl | ht
    · exact h.target_new.2 (by simp)
    · exact h.target_new.1 ht
  · intro ht
    rcases mem_append.mp ht with ht | ht
    · exact htarget (mem_toList.mp ht)
    · exact h.target_new.2 (mem_cons_of_mem _ ht)
  · intro a b ha hab
    rcases mem_insert_iff.mp ha with rfl | ha
    · have hb : b ∈ targets := (DependencyGraph.edge_iff htargets).mp hab
      exact .inl (mem_append_left _ (mem_toList.mpr hb))
    · rcases h.successors a b ha hab with hb | hb
      · rcases mem_cons.mp hb with rfl | hb
        · exact .inr (mem_insert_iff.mpr (.inl rfl))
        · exact .inl (mem_append_right _ hb)
      · exact .inr (mem_insert_iff.mpr (.inr hb))

/-- With nothing pending the visited nodes are closed, so the target is not reached. -/
lemma not_reachable (h : SearchInv graph start target [] visited) :
    ¬ReflTransGen graph.Edge start target := by
  intro hreach
  refine h.target_new.1 (mem_of_reaches (S := fun n => n ∈ visited) ?_ hreach
    (h.started.resolve_left (by simp)))
  intro a b ha hab
  exact (h.successors a b ha hab).resolve_left (by simp)

lemma visited_size_le (h : SearchInv graph start target (node :: pending) visited) :
    (visited.insert node).size ≤ graph.size := by
  apply size_le_of_subset_keys
  intro n hn
  rcases mem_insert_iff.mp hn with rfl | hn
  · exact h.indexed n (.inl (by simp))
  · exact h.indexed n (.inr hn)

end SearchInv

variable {maxNodes : Nat}

lemma reachableLoop_spec {start target : DependencyNodeId} (hclosed : graph.Closed)
    (hmax : graph.size ≤ maxNodes) :
    ∀ (fuel : Nat) (pending : List DependencyNodeId) (visited : BTreeSet DependencyNodeId),
      SearchInv graph start target pending visited →
      pending.length + unvisitedEdges graph visited ≤ fuel →
      ∃ found, reachableLoop graph target maxNodes fuel pending visited = .ok found ∧
        (found = true ↔ ReflTransGen graph.Edge start target) := by
  intro fuel
  induction fuel with
  | zero =>
    intro pending visited hinv hfuel
    cases pending with
    | nil => exact ⟨false, by rw [reachableLoop], by simp [hinv.not_reachable]⟩
    | cons node pending => simp at hfuel
  | succ fuel ih =>
    intro pending visited hinv hfuel
    cases pending with
    | nil => exact ⟨false, by rw [reachableLoop], by simp [hinv.not_reachable]⟩
    | cons node pending =>
      rw [length_cons] at hfuel
      rw [reachableLoop]
      by_cases hvisited : node ∈ visited
      · -- a second visit is skipped
        rw [if_pos hvisited]
        exact ih pending visited (hinv.skip hvisited) (by omega)
      · rw [if_neg hvisited]
        obtain ⟨targets, htargets⟩ :=
          mem_iff_getElem?.mp (hinv.indexed node (.inl (by simp)))
        have hsize : ¬(visited.insert node).size > maxNodes := by
          have hle := hinv.visited_size_le
          omega
        by_cases hfound : target ∈ targets
        · -- the target is a successor of the node just visited
          refine ⟨true, ?_, ?_⟩
          · simp [failIf, hsize, okOr, htargets, hfound, bind, Except.bind, pure, Except.pure]
          · simp only [true_iff]
            exact (hinv.reached node (.inl (by simp))).tail ⟨targets, htargets, hfound⟩
        · have hspent := unvisitedEdges_insert hvisited htargets
          have hfuel' : (targets.toList ++ pending).length +
              unvisitedEdges graph (visited.insert node) ≤ fuel := by
            rw [length_append, Std.ExtTreeSet.length_toList]
            omega
          obtain ⟨found, hrun, hiff⟩ := ih _ _ (hinv.visit hclosed htargets hfound) hfuel'
          refine ⟨found, ?_, hiff⟩
          simpa [failIf, hsize, okOr, htargets, hfound, bind, Except.bind] using hrun

lemma reachableLoop_start {start target : DependencyNodeId} (hclosed : graph.Closed)
    (hmax : graph.size ≤ maxNodes) (hstart : start ∈ graph) (hne : start ≠ target) (fuel : Nat)
    (hfuel : reachableFuel graph ≤ fuel) :
    ∃ found, reachableLoop graph target maxNodes fuel [start] ∅ = .ok found ∧
      (found = true ↔ ReflTransGen graph.Edge start target) := by
  refine reachableLoop_spec hclosed hmax _ [start] ∅ ⟨?_, ?_, ?_, ?_, ?_⟩ ?_
  · intro n hn
    simp only [mem_singleton, Std.ExtTreeSet.not_mem_empty, or_false] at hn
    exact hn ▸ hstart
  · intro n hn
    simp only [mem_singleton, Std.ExtTreeSet.not_mem_empty, or_false] at hn
    exact hn ▸ ReflTransGen.refl
  · simp
  · simp [eq_comm, hne]
  · intro a b ha
    simp at ha
  · rw [unvisitedEdges_empty, length_singleton, add_comm]
    exact hfuel

/-- The traversal returns, and says whether a path exists. -/
lemma dependencyGraphReachable_eq (hclosed : graph.Closed) (hmax : graph.size ≤ maxNodes)
    (start target : DependencyNodeId) :
    ∃ found, dependencyGraphReachable graph start target maxNodes = .ok found ∧
      (found = true ↔ ReflTransGen graph.Edge start target) := by
  unfold dependencyGraphReachable
  by_cases heq : start = target
  · exact ⟨true, by rw [if_pos heq], by simp [heq, ReflTransGen.refl]⟩
  · rw [if_neg heq]
    by_cases hstart : start ∈ graph
    · rw [if_neg (not_not.mpr hstart)]
      exact reachableLoop_start hclosed hmax hstart heq _ le_rfl
    · rw [if_pos hstart]
      refine ⟨false, rfl, ?_⟩
      simp only [Bool.false_eq_true, false_iff]
      intro hreach
      exact heq (eq_of_reaches_of_sink (fun c hc => hstart hc.source_mem) hreach)

/-! ## The topological count -/

abbrev Indegrees := BTreeMap DependencyNodeId Nat

def countEdge (indegree : Indegrees) (target : DependencyNodeId) : BrainResult Indegrees := do
  let degree ← okOr indegree[target]? (integrity "dependency_graph_target_missing")
  let degree ← checkedAdd u64Width degree 1 (invalid "dependency_indegree_overflow")
  return indegree.insert target degree

def initialIndegrees (graph : DependencyGraph) : BrainResult Indegrees :=
  (BTreeMap.values graph).foldlM (fun indegree targets => targets.toList.foldlM countEdge indegree)
    (graph.map fun _ _ => 0)

def discountEdge (state : Indegrees × BTreeSet DependencyNodeId) (target : DependencyNodeId) :
    BrainResult (Indegrees × BTreeSet DependencyNodeId) := do
  let (indegree, ready) := state
  let degree ← okOr indegree[target]? (integrity "dependency_graph_target_missing")
  failIf (degree = 0) (integrity "dependency_indegree_underflow")
  let degree := degree - 1
  return (indegree.insert target degree, if degree = 0 then ready.insert target else ready)

/-- The counting loop: take the first ready node and discount its edges. -/
def countLoop (graph : DependencyGraph) :
    Nat → Indegrees → BTreeSet DependencyNodeId → Nat → BrainResult Nat
  | 0, _, _, visited => .ok visited
  | fuel + 1, indegree, ready, visited =>
    match ready.min? with
    | none => .ok visited
    | some node => do
      let visited ← checkedAdd u64Width visited 1 (invalid "dependency_visit_overflow")
      let (indegree, ready) ←
        (graph.getD node ∅).toList.foldlM discountEdge (indegree, ready.erase node)
      countLoop graph fuel indegree ready visited

/-- The nodes without incoming edges. -/
def initialReady (indegree : Indegrees) : BTreeSet DependencyNodeId :=
  .ofList (indegree.toList.filterMap fun p => if p.2 = 0 then some p.1 else none)

/-- Whether the graph is small enough and has no cycle. -/
def dependencyGraphIsAcyclic (graph : DependencyGraph) (maxNodes : Nat) : BrainResult Bool :=
  if graph.size > maxNodes then .ok false
  else do
    let indegree ← initialIndegrees graph
    let visited ← countLoop graph graph.size indegree (initialReady indegree) 0
    return visited == graph.size

def predCount (graph : DependencyGraph) (taken : List DependencyNodeId) (v : DependencyNodeId) :
    Nat :=
  graph.toList.countP fun p => p.1 ∉ taken ∧ v ∈ p.2

variable {taken : List DependencyNodeId}

lemma predCount_eq_zero {v : DependencyNodeId} :
    predCount graph taken v = 0 ↔ ∀ u, graph.Edge u v → u ∈ taken := by
  rw [predCount, countP_eq_zero, forall_toList]
  simp only [decide_eq_true_eq, not_and]
  constructor
  · rintro h u ⟨targets, hu, hv⟩
    by_contra hnot
    exact h u targets hu hnot hv
  · intro h u targets hu hnot hv
    exact hnot (h u ⟨targets, hu, hv⟩)

lemma predCount_cons (hnode : graph[node]? = some targets) (hnew : node ∉ taken)
    (v : DependencyNodeId) :
    predCount graph taken v = predCount graph (node :: taken) v + if v ∈ targets then 1 else 0 := by
  have hperm := toList_perm_erase hnode
  rw [predCount, predCount, hperm.countP_eq, hperm.countP_eq, countP_cons, countP_cons]
  have hrest : (graph.erase node).toList.countP (fun p => decide (p.1 ∉ taken ∧ v ∈ p.2)) =
      (graph.erase node).toList.countP (fun p => decide (p.1 ∉ node :: taken ∧ v ∈ p.2)) := by
    apply countP_congr
    rintro ⟨u, targets'⟩ hu
    have hne : u ≠ node := by
      rintro rfl
      rw [mem_toList_iff, getElem?_erase_iff] at hu
      simp at hu
    simp [hne]
  rw [hrest]
  simp [hnew]

/-! ### Counting the edges at the start. -/

variable {indegree : Indegrees}

lemma countEdge_eq {target : DependencyNodeId} {d : Nat} (h : indegree[target]? = some d)
    (hd : d + 1 < u64Width) : countEdge indegree target = .ok (indegree.insert target (d + 1)) := by
  simp [countEdge, h, okOr, checkedAdd, hd, bind, Except.bind, pure, Except.pure]

lemma foldlM_countEdge {targets : List DependencyNodeId} (hnodup : targets.Nodup)
    (indegree : Indegrees) (hbound : ∀ v ∈ targets, ∃ d, indegree[v]? = some d ∧ d + 1 < u64Width) :
    ∃ indegree', targets.foldlM countEdge indegree = .ok indegree' ∧
      ∀ v : DependencyNodeId, indegree'[v]? =
        (indegree[v]?).map fun d => d + if v ∈ targets then 1 else 0 := by
  induction targets generalizing indegree with
  | nil => exact ⟨indegree, rfl, by simp⟩
  | cons t ts ih =>
    obtain ⟨d, hd, hlt⟩ := hbound t (by simp)
    rw [nodup_cons] at hnodup
    obtain ⟨indegree', hrun, hvals⟩ := ih hnodup.2 (indegree.insert t (d + 1)) (by
      intro v hv
      have hne : t ≠ v := fun h => hnodup.1 (h ▸ hv)
      rw [getElem?_insert_of_ne hne]
      exact hbound v (by simp [hv]))
    refine ⟨indegree', ?_, ?_⟩
    · rw [foldlM_cons, countEdge_eq hd hlt]
      exact hrun
    · intro v
      rw [hvals v, getElem?_insert_iff]
      by_cases hv : t = v
      · subst hv
        simp [hd, hnodup.1]
      · have hv' : ¬v = t := fun h => hv h.symm
        simp [hv, hv']

lemma foldlM_initial (lists : List (BTreeSet DependencyNodeId)) (indegree : Indegrees)
    (hbound : ∀ targets ∈ lists, ∀ v ∈ targets,
      ∃ d, indegree[v]? = some d ∧ d + lists.length < u64Width) : ∃ indegree',
      lists.foldlM (fun indegree targets => targets.toList.foldlM countEdge indegree) indegree =
        .ok indegree' ∧ ∀ v : DependencyNodeId, indegree'[v]? =
        (indegree[v]?).map fun d => d + lists.countP fun targets => v ∈ targets := by
  induction lists generalizing indegree with
  | nil => exact ⟨indegree, rfl, by simp⟩
  | cons targets lists ih =>
    obtain ⟨indegree₁, hrun₁, hvals₁⟩ :=
      foldlM_countEdge (nodup_toList targets) indegree (by
        intro v hv
        obtain ⟨d, hd, hlt⟩ := hbound targets (by simp) v (mem_toList.mp hv)
        rw [length_cons] at hlt
        exact ⟨d, hd, by omega⟩)
    obtain ⟨indegree₂, hrun₂, hvals₂⟩ := ih indegree₁ (by
      intro targets' ht v hv
      obtain ⟨d, hd, hlt⟩ := hbound targets' (by simp [ht]) v hv
      rw [length_cons] at hlt
      refine ⟨_, by rw [hvals₁ v, hd, Option.map_some], ?_⟩
      split <;> omega)
    refine ⟨indegree₂, ?_, ?_⟩
    · rw [foldlM_cons, hrun₁]
      exact hrun₂
    · intro v
      rw [hvals₂ v, hvals₁ v, Option.map_map]
      congr 1
      funext d
      simp only [Function.comp_apply, countP_cons]
      by_cases hv : v ∈ targets
      · simp [hv]
        omega
      · simp [hv]

lemma initialIndegrees_eq (hclosed : graph.Closed) (hsize : graph.size < u64Width) :
    ∃ indegree, initialIndegrees graph = .ok indegree ∧ ∀ v : DependencyNodeId,
        indegree[v]? = if v ∈ graph then some (predCount graph [] v) else none := by
  obtain ⟨indegree, hrun, hvals⟩ :=
    foldlM_initial (BTreeMap.values graph) (graph.map fun _ _ => 0) (by
      intro targets ht v hv
      obtain ⟨u, hu⟩ := mem_values.mp ht
      have hmem : v ∈ graph := hclosed u v ⟨targets, hu, hv⟩
      obtain ⟨t, hget⟩ := mem_iff_getElem?.mp hmem
      refine ⟨0, by rw [Std.ExtTreeMap.getElem?_map, hget]; rfl, ?_⟩
      simpa using hsize)
  refine ⟨indegree, hrun, ?_⟩
  intro v
  rw [hvals v, Std.ExtTreeMap.getElem?_map]
  cases hget : graph[v]? with
  | none =>
    have hnot : v ∉ graph := by
      intro hmem
      obtain ⟨t, ht⟩ := mem_iff_getElem?.mp hmem
      rw [hget] at ht
      cases ht
    simp [hnot]
  | some t =>
    have hmem : v ∈ graph := mem_iff_getElem?.mpr ⟨t, hget⟩
    have hcount : (BTreeMap.values graph).countP (fun targets => decide (v ∈ targets)) =
        predCount graph [] v := by
      rw [BTreeMap.values, countP_map, predCount]
      apply countP_congr
      intro p _
      simp
    simp [hmem, hcount]

/-! ### Discounting the edges of a taken node. -/

variable {ready : BTreeSet DependencyNodeId}

lemma discountEdge_eq {target : DependencyNodeId} {d : Nat}
    (h : indegree[target]? = some (d + 1)) : discountEdge (indegree, ready) target =
      .ok (indegree.insert target d, if d = 0 then ready.insert target else ready) := by
  simp [discountEdge, h, okOr, failIf, bind, Except.bind, pure, Except.pure]

lemma foldlM_discountEdge {targets : List DependencyNodeId} (hnodup : targets.Nodup)
    (indegree : Indegrees) (ready : BTreeSet DependencyNodeId)
    (hpos : ∀ v ∈ targets, ∃ d, indegree[v]? = some (d + 1)) : ∃ indegree' ready',
      targets.foldlM discountEdge (indegree, ready) = .ok (indegree', ready') ∧
      (∀ v : DependencyNodeId, indegree'[v]? =
        (indegree[v]?).map fun d => d - if v ∈ targets then 1 else 0) ∧
      ∀ v, v ∈ ready' ↔ v ∈ ready ∨ (v ∈ targets ∧ indegree[v]? = some 1) := by
  induction targets generalizing indegree ready with
  | nil => exact ⟨indegree, ready, rfl, by simp, by simp⟩
  | cons t ts ih =>
    obtain ⟨d, hd⟩ := hpos t (by simp)
    rw [nodup_cons] at hnodup
    have hkeep : ∀ v : DependencyNodeId, v ∈ ts → (indegree.insert t d)[v]? = indegree[v]? := by
      intro v hv
      exact getElem?_insert_of_ne (fun h => hnodup.1 (h ▸ hv))
    obtain ⟨indegree', ready', hrun, hvals, hready⟩ := ih hnodup.2
      (indegree.insert t d) (if d = 0 then ready.insert t else ready) (by
        intro v hv
        rw [hkeep v hv]
        exact hpos v (by simp [hv]))
    refine ⟨indegree', ready', ?_, ?_, ?_⟩
    · rw [foldlM_cons, discountEdge_eq hd]
      exact hrun
    · intro v
      rw [hvals v, getElem?_insert_iff]
      by_cases hv : t = v
      · subst hv
        simp [hd, hnodup.1]
      · have hv' : ¬v = t := fun h => hv h.symm
        simp [hv, hv']
    · intro v
      rw [hready v]
      have hfirst : v ∈ (if d = 0 then ready.insert t else ready) ↔
          v ∈ ready ∨ (v = t ∧ d = 0) := by
        split
        · next h =>
          rw [BTreeSet.mem_insert_iff, and_iff_left h, or_comm]
        · next h => simp [h]
      rw [hfirst]
      by_cases hv : v = t
      · subst hv
        simp [hd, hnodup.1]
      · have hrest : v ∈ ts ∧ (indegree.insert t d)[v]? = some 1 ↔
            v ∈ ts ∧ indegree[v]? = some 1 := by
          constructor
          · rintro ⟨hmem, hone⟩
            exact ⟨hmem, hkeep v hmem ▸ hone⟩
          · rintro ⟨hmem, hone⟩
            exact ⟨hmem, (hkeep v hmem).symm ▸ hone⟩
        rw [hrest]
        simp [hv]

/-! ### The loop. -/

/-- What the counting loop keeps, with the nodes taken so far as a ghost list. -/
structure CountInv (graph : DependencyGraph) (indegree : Indegrees)
    (ready : BTreeSet DependencyNodeId) (visited : Nat) (taken : List DependencyNodeId) :
    Prop where
  order : PeelOrder graph.Edge taken
  nodes : ∀ v ∈ taken, v ∈ graph
  count : visited = taken.length
  degrees : ∀ v : DependencyNodeId,
    indegree[v]? = if v ∈ graph then some (predCount graph taken v) else none
  ready_iff : ∀ v, v ∈ ready ↔ v ∈ graph ∧ v ∉ taken ∧ predCount graph taken v = 0

lemma CountInv.length_le {visited : Nat} (h : CountInv graph indegree ready visited taken) :
    taken.length ≤ graph.size := by
  rw [← length_keys]
  refine (subperm_of_subset h.order.nodup ?_).length_le
  intro v hv
  exact mem_keys.mpr (h.nodes v hv)

lemma CountInv.take {visited : Nat} (hclosed : graph.Closed)
    (h : CountInv graph indegree ready visited taken) (hnode : node ∈ ready) : ∃ indegree' ready',
      (graph.getD node ∅).toList.foldlM discountEdge (indegree, ready.erase node) =
        .ok (indegree', ready') ∧
      CountInv graph indegree' ready' (visited + 1) (node :: taken) := by
  obtain ⟨hgraph, hnew, hzero⟩ := (h.ready_iff node).mp hnode
  obtain ⟨targets, htargets⟩ := mem_iff_getElem?.mp hgraph
  have hgetD : graph.getD node ∅ = targets := by
    rw [getD_eq_getD_getElem?, htargets]
    rfl
  have hcons := predCount_cons htargets hnew
  have hmem : ∀ v, v ∈ targets.toList ↔ v ∈ targets := fun v => Std.ExtTreeSet.mem_toList
  have hindexed : ∀ v, v ∈ targets → v ∈ graph := fun v hv => hclosed node v ⟨targets, htargets, hv⟩
  obtain ⟨indegree', ready', hrun, hvals, hready⟩ :=
    foldlM_discountEdge (nodup_toList targets) indegree (ready.erase node) (by
        intro v hv
        have hv' := (hmem v).mp hv
        refine ⟨predCount graph (node :: taken) v, ?_⟩
        rw [h.degrees v, if_pos (hindexed v hv'), hcons v, if_pos hv'])
  refine ⟨indegree', ready', by rw [hgetD]; exact hrun, ?_, ?_, ?_, ?_, ?_⟩
  · exact PeelOrder.cons h.order hnew (predCount_eq_zero.mp hzero)
  · exact forall_mem_cons.mpr ⟨hgraph, h.nodes⟩
  · rw [h.count, length_cons]
  · intro v
    rw [hvals v, h.degrees v]
    by_cases hv : v ∈ graph
    · rw [if_pos hv, if_pos hv, hcons v, map_some]
      congr 1
      simp only [hmem]
      omega
    · rw [if_neg hv, if_neg hv, map_none]
  · intro v
    rw [hready v, Std.ExtTreeSet.mem_erase, h.ready_iff v, hmem, h.degrees v]
    simp only [ne_eq, Std.LawfulEqCmp.compare_eq_iff_eq, mem_cons, not_or]
    constructor
    · rintro (⟨hne, hv, hvt, hv0⟩ | ⟨hvtargets, hone⟩)
      · exact ⟨hv, ⟨fun h => hne h.symm, hvt⟩, by have := hcons v; omega⟩
      · have hv := hindexed v hvtargets
        rw [if_pos hv, some.injEq] at hone
        have hc := hcons v
        rw [if_pos hvtargets] at hc
        refine ⟨hv, ⟨?_, ?_⟩, by omega⟩
        · rintro rfl
          omega
        · intro hvt
          exact hnew (h.order.pred_mem hvt ⟨targets, htargets, hvtargets⟩)
    · rintro ⟨hv, ⟨hne, hvt⟩, hv0⟩
      have hc := hcons v
      by_cases hvtargets : v ∈ targets
      · rw [if_pos hvtargets] at hc
        refine .inr ⟨hvtargets, ?_⟩
        rw [if_pos hv, some.injEq]
        omega
      · rw [if_neg hvtargets] at hc
        exact .inl ⟨fun h => hne h.symm, hv, hvt, by omega⟩

lemma countLoop_spec (hclosed : graph.Closed) (hsize : graph.size < u64Width) :
    ∀ (fuel : Nat) (indegree : Indegrees) (ready : BTreeSet DependencyNodeId) (visited : Nat)
      (taken : List DependencyNodeId), CountInv graph indegree ready visited taken →
      graph.size ≤ taken.length + fuel →
      ∃ order, (∀ extra, countLoop graph (fuel + extra) indegree ready visited = .ok order.length) ∧
        PeelOrder graph.Edge order ∧ (∀ v ∈ order, v ∈ graph) ∧
        ∀ v ∈ graph, v ∉ order → ∃ u, graph.Edge u v ∧ u ∉ order := by
  intro fuel
  induction fuel with
  | zero =>
    intro indegree ready visited taken hinv hfuel
    -- every node has been taken
    have hall : ∀ v ∈ graph, v ∈ taken := by
      intro v hv
      by_contra hnot
      have hlong : (v :: taken).length ≤ graph.size := by
        rw [← length_keys]
        refine (subperm_of_subset (nodup_cons.mpr ⟨hnot, hinv.order.nodup⟩) ?_).length_le
        intro w hw
        rcases mem_cons.mp hw with rfl | hw
        · exact mem_keys.mpr hv
        · exact mem_keys.mpr (hinv.nodes w hw)
      rw [length_cons] at hlong
      omega
    have hempty : ready = ∅ := by
      rw [Std.ExtTreeSet.eq_empty_iff_forall_not_mem]
      intro v hv
      exact ((hinv.ready_iff v).mp hv).2.1 (hall v ((hinv.ready_iff v).mp hv).1)
    refine ⟨taken, ?_, hinv.order, hinv.nodes, fun v hv hnot => absurd (hall v hv) hnot⟩
    intro extra
    cases extra with
    | zero => rw [countLoop, hinv.count]
    | succ extra =>
      rw [zero_add, countLoop, hempty, Std.ExtTreeSet.min?_eq_none_iff.mpr rfl, hinv.count]
  | succ fuel ih =>
    intro indegree ready visited taken hinv hfuel
    simp only [add_right_comm fuel 1, countLoop]
    cases hmin : ready.min? with
    | none =>
      refine ⟨taken, fun _ => by rw [hinv.count], hinv.order, hinv.nodes, ?_⟩
      -- no node is ready
      intro v hv hnot
      have hempty : ready = ∅ := Std.ExtTreeSet.min?_eq_none_iff.mp hmin
      by_contra hpreds
      have hzero : predCount graph taken v = 0 := by
        rw [predCount_eq_zero]
        intro u hu
        by_contra hnotu
        exact hpreds ⟨u, hu, hnotu⟩
      have hready : v ∈ ready := (hinv.ready_iff v).mpr ⟨hv, hnot, hzero⟩
      rw [hempty] at hready
      exact absurd hready Std.ExtTreeSet.not_mem_empty
    | some node =>
      have hnode : node ∈ ready := Std.ExtTreeSet.min?_mem hmin
      obtain ⟨indegree', ready', hrun, hinv'⟩ := hinv.take hclosed hnode
      have hvisited : visited + 1 < u64Width := by
        have hle := hinv'.length_le
        rw [hinv'.count]
        omega
      obtain ⟨order, hloop, hrest⟩ := ih indegree' ready' (visited + 1) (node :: taken) hinv' (by
        rw [length_cons]
        omega)
      refine ⟨order, fun extra => ?_, hrest⟩
      simpa [checkedAdd, hvisited, hrun, bind, Except.bind] using hloop extra

lemma mem_initialReady {v : DependencyNodeId} :
    v ∈ initialReady indegree ↔ indegree[v]? = some 0 := by
  rw [initialReady, Std.ExtTreeSet.mem_ofList, List.contains_iff_mem, mem_filterMap]
  constructor
  · rintro ⟨⟨u, d⟩, hmem, hu⟩
    rw [mem_toList_iff] at hmem
    by_cases hd : d = 0
    · simp only [hd, if_true, some.injEq] at hu
      rw [← hu, ← hd]
      exact hmem
    · simp [hd] at hu
  · intro h
    exact ⟨(v, 0), mem_toList_iff.mpr h, by simp⟩

/-- The count returns, and says whether the graph has no cycle. Rounds beyond one for
    each node change nothing. -/
lemma dependencyGraphIsAcyclic_eq (hclosed : graph.Closed) (hsize : graph.size ≤ maxNodes)
    (hmax : maxNodes < u64Width) :
    (∃ acyclic, dependencyGraphIsAcyclic graph maxNodes = .ok acyclic ∧
      (acyclic = true ↔ Acyclic graph.Edge)) ∧
    ∀ indegree, initialIndegrees graph = .ok indegree → ∀ extra,
      countLoop graph (graph.size + extra) indegree (initialReady indegree) 0 =
        countLoop graph graph.size indegree (initialReady indegree) 0 := by
  have hfits : graph.size < u64Width := by omega
  obtain ⟨indegree, hinitial, hdegrees⟩ := initialIndegrees_eq hclosed hfits
  have hinv : CountInv graph indegree (initialReady indegree) 0 [] := by
    refine ⟨PeelOrder.nil, by simp, rfl, hdegrees, ?_⟩
    intro v
    rw [mem_initialReady, hdegrees v]
    by_cases hv : v ∈ graph <;> simp [hv]
  obtain ⟨order, hloop, horder, hnodes, hwait⟩ :=
    countLoop_spec hclosed hfits graph.size indegree (initialReady indegree) 0 [] hinv (by simp)
  have hresult : dependencyGraphIsAcyclic graph maxNodes = .ok (order.length == graph.size) := by
    rw [dependencyGraphIsAcyclic, if_neg (by omega), hinitial, ok_bind, ← add_zero graph.size,
      hloop]
    rfl
  constructor
  · refine ⟨_, hresult, ?_⟩
    rw [beq_iff_eq]
    have hle : order.length ≤ graph.size := by
      rw [← length_keys]
      exact (subperm_of_subset horder.nodup
        (fun v hv => mem_keys.mpr (hnodes v hv))).length_le
    constructor
    · intro hlen
      refine horder.acyclic ?_
      -- an order as long as the graph contains every node
      intro u v huv
      by_contra hnot
      have hlong : (v :: order).length ≤ graph.size := by
        rw [← length_keys]
        refine (subperm_of_subset (nodup_cons.mpr ⟨hnot, horder.nodup⟩) ?_).length_le
        intro w hw
        rcases mem_cons.mp hw with rfl | hw
        · exact mem_keys.mpr (hclosed u w huv)
        · exact mem_keys.mpr (hnodes w hw)
      rw [length_cons] at hlong
      omega
    · intro hacyclic
      have hall : ∀ v ∈ graph.keys, v ∈ order := by
        by_contra hsome
        simp only [not_forall] at hsome
        obtain ⟨v, hv, hnot⟩ := hsome
        obtain ⟨w, hw, hwnot, hpreds⟩ := hacyclic.exists_source graph.keys
          (fun u v huv => mem_keys.mpr huv.source_mem) ⟨v, hv, hnot⟩
        obtain ⟨u, huw, hunot⟩ := hwait w (mem_keys.mp hw) hwnot
        exact hunot (hpreds u huw)
      have hge : graph.size ≤ order.length := by
        rw [← length_keys]
        exact (subperm_of_subset nodup_keys hall).length_le
      omega
  · intro indegree' hinitial' extra
    rw [hinitial] at hinitial'
    cases hinitial'
    rw [hloop, ← add_zero graph.size, hloop]

/-- The count accepts exactly the graphs within the limit that have no cycle. -/
lemma dependencyGraphIsAcyclic_iff (hclosed : graph.Closed) (hmax : maxNodes < u64Width) :
    dependencyGraphIsAcyclic graph maxNodes = .ok true ↔
      graph.size ≤ maxNodes ∧ Acyclic graph.Edge := by
  by_cases hsize : graph.size ≤ maxNodes
  · obtain ⟨⟨acyclic, hrun, hacyclic⟩, -⟩ := dependencyGraphIsAcyclic_eq hclosed hsize hmax
    rw [hrun, Except.ok.injEq, hacyclic]
    exact (and_iff_right hsize).symm
  · rw [dependencyGraphIsAcyclic, if_pos (by omega)]
    simp [hsize]

lemma dependencyGraphIsAcyclic_of_edgeless
    (hedgeless : ∀ targets ∈ BTreeMap.values graph, targets = ∅) (hsize : graph.size ≤ maxNodes)
    (hmax : maxNodes < u64Width) : dependencyGraphIsAcyclic graph maxNodes = .ok true := by
  have hnone : ∀ a b, ¬graph.Edge a b := by
    rintro a b ⟨targets, ha, hb⟩
    rw [hedgeless targets (mem_values.mpr ⟨a, ha⟩)] at hb
    simp at hb
  refine (dependencyGraphIsAcyclic_iff (fun a b h => absurd h (hnone a b)) hmax).mpr ⟨hsize, ?_⟩
  intro a h
  obtain ⟨b, -, hb⟩ := Relation.TransGen.tail'_iff.mp h
  exact hnone b a hb

end Tidex.Knowledge
