import Mathlib.Data.List.Nodup
import PlanRunner.Graph.Layers
import PlanRunner.Proofs.Graph.Paths
import PlanRunner.Proofs.Plan.Lookup

/-!
# What is in a layer

When some nodes have been placed, every other node waits for as many arrivals as edges lead to it,
less one for every placed node that leads to it. That is nothing exactly if all that leads to the
node has been placed, and no edge to it is repeated: a node sends a single arrival along all its
edges to another one. So each layer holds, in the order of the nodes, those of the rest that only
placed nodes lead to, each by one edge, and the layers end when there are none. What is left over
then either waits for other nodes that are left over, so that it is behind a cycle, or it is behind
a repeated edge.
-/

namespace PlanRunner.Graph

open Relation

variable {graph : Graph} {placed layer : List String} {id source : String}

/-! ## Arrivals -/

/-- The nodes that lead to a node, once for each edge. -/
def sources (graph : Graph) (id : String) : List String :=
  (graph.edges.filter (·.target == id)).map (·.source)

/-- How many placed nodes lead to a node. -/
def arrived (graph : Graph) (placed : List String) (id : String) : Nat :=
  placed.countP (· ∈ graph.sources id)

/-- How many arrivals a node still waits for when some nodes have been placed. -/
def awaited (graph : Graph) (placed : List String) (id : String) : Nat :=
  graph.inDegree id - graph.arrived placed id

theorem mem_sources : source ∈ graph.sources id ↔ graph.Leads source id := by
  simp only [sources, Leads, List.mem_map, List.mem_filter, beq_iff_eq]
  constructor
  · rintro ⟨edge, ⟨member, rfl⟩, rfl⟩
    exact member
  · exact fun leads => ⟨⟨source, id⟩, ⟨leads, rfl⟩, rfl⟩

theorem length_sources (graph : Graph) (id : String) :
    (graph.sources id).length = graph.inDegree id := by
  simp [sources, inDegree]

/-- More than one edge leads to a node from one and the same node. -/
def Doubled (graph : Graph) (id : String) : Prop :=
  ∃ source, 1 < graph.edges.count ⟨source, id⟩

/-- More than one edge leads to a node, or to a node from which a path leads to it. -/
def BehindDoubled (graph : Graph) (id : String) : Prop :=
  ∃ other, graph.Doubled other ∧ ReflTransGen graph.Leads other id

theorem count_sources (graph : Graph) (source id : String) :
    (graph.sources id).count source = graph.edges.count ⟨source, id⟩ := by
  simp only [sources, List.count, List.countP_map, List.countP_filter]
  refine List.countP_congr fun edge _ => ?_
  cases edge
  simp [Edge.mk.injEq]

theorem nodup_sources_iff : (graph.sources id).Nodup ↔ ¬graph.Doubled id := by
  simp only [List.nodup_iff_count_le_one, count_sources, Doubled, not_exists, Nat.not_lt]

theorem not_doubled_of_nodup (edges : graph.edges.Nodup) (id : String) : ¬graph.Doubled id := by
  rintro ⟨source, twice⟩
  exact Nat.not_lt.2 (List.nodup_iff_count_le_one.1 edges _) twice

/-- In the graph of steps with different identifiers no edge is repeated. -/
theorem nodup_edges_ofSteps {steps : List Step} (distinct : Step.Distinct steps) :
    (ofSteps steps).edges.Nodup := by
  refine List.nodup_flatMap.2 ⟨fun step _ => ?_, (List.pairwise_map.1 distinct).imp ?_⟩
  · have nodup : step.dependencies.ids.Nodup :=
      step.dependencies.sorted.imp fun before => Std.ne_of_lt before
    exact nodup.map fun first second same => (Edge.mk.inj same).1
  · intro first second different edge inFirst inSecond
    obtain ⟨_, -, rfl⟩ := List.mem_map.1 inFirst
    obtain ⟨_, -, same⟩ := List.mem_map.1 inSecond
    exact different (Edge.mk.inj same).2.symm

/-- Each node of a layer sends one arrival to every node that it leads to. -/
theorem count_arrivals (graph : Graph) (layer : List String) (id : String) :
    (graph.arrivals layer).count id = graph.arrived layer id := by
  have once : ∀ source, (graph.successors source).count id =
      if source ∈ graph.sources id then 1 else 0 := by
    intro source
    rw [(graph.nodup_successors source).count]
    exact if_congr (mem_successors.trans mem_sources.symm) rfl rfl
  induction layer with
  | nil => rfl
  | cons first rest ih =>
      have split : graph.arrivals (first :: rest) =
          graph.successors first ++ graph.arrivals rest := rfl
      rw [split, List.count_append, ih, once, arrived, arrived, List.countP_cons, Nat.add_comm]
      simp only [decide_eq_true_eq]

theorem awaited_append (graph : Graph) (placed layer : List String) (id : String) :
    graph.awaited (placed ++ layer) id =
      graph.awaited placed id - (graph.arrivals layer).count id := by
  simp only [awaited, arrived, count_arrivals, List.countP_append, Nat.sub_sub]

/-- A node waits for nothing once all that leads to it has been placed, if no edge is repeated. -/
theorem awaited_eq_zero_iff (distinct : placed.Nodup) :
    graph.awaited placed id = 0 ↔
      ¬graph.Doubled id ∧ ∀ source, graph.Leads source id → source ∈ placed := by
  have arrivals : graph.arrived placed id = (placed.filter (· ∈ graph.sources id)).length :=
    List.countP_eq_length_filter
  -- What has arrived has no repetition, so that it falls short of what leads to the node twice.
  rw [awaited, Nat.sub_eq_zero_iff_le, ← length_sources, arrivals, ← nodup_sources_iff]
  constructor
  · intro enough
    have part : (placed.filter (· ∈ graph.sources id)) ⊆ graph.sources id :=
      fun other member => by simpa using (List.mem_filter.1 member).2
    have perm := ((distinct.filter _).subperm part).perm_of_length_le enough
    refine ⟨perm.nodup_iff.1 (distinct.filter _), fun source leads => ?_⟩
    exact (List.mem_filter.1 (perm.mem_iff.2 (mem_sources.2 leads))).1
  · rintro ⟨once, allPlaced⟩
    refine (once.subperm fun source member => ?_).length_le
    exact List.mem_filter.2 ⟨allPlaced source (mem_sources.1 member), by simpa using member⟩

/-- Without repeated edges a node waits for nothing once all that leads to it has been placed. -/
theorem awaited_eq_zero_iff_of_nodup (edges : graph.edges.Nodup) (distinct : placed.Nodup) :
    graph.awaited placed id = 0 ↔ ∀ source, graph.Leads source id → source ∈ placed := by
  rw [awaited_eq_zero_iff distinct, and_iff_right (not_doubled_of_nodup edges id)]

/-! ## The nodes that wait -/

/-- The nodes that wait when some nodes have been placed. -/
def waitingAfter (graph : Graph) (placed : List String) : List Waiting :=
  (graph.nodes.filter (· ∉ placed)).map fun id => ⟨id, graph.awaited placed id⟩

/-- The layer that comes next when some nodes have been placed. -/
def nextLayer (graph : Graph) (placed : List String) : List String :=
  graph.nodes.filter fun id => id ∉ placed ∧ graph.awaited placed id = 0

theorem waitingAfter_nil (graph : Graph) : graph.waitingAfter [] = graph.waiting := by
  simp [waitingAfter, waiting, awaited, arrived]

theorem released_waitingAfter (graph : Graph) (placed : List String) :
    released (graph.waitingAfter placed) = graph.nextLayer placed := by
  have ids : (Waiting.id ∘ fun id => (⟨id, graph.awaited placed id⟩ : Waiting)) = id := rfl
  rw [released, waitingAfter, List.filter_map, List.map_map, ids, List.map_id, List.filter_filter,
    nextLayer]
  refine List.filter_congr fun id _ => ?_
  simp [Bool.and_comm]

/-- When a layer is placed, its arrivals leave the other nodes waiting for the rest. -/
theorem await_waitingAfter (graph : Graph) (placed : List String) :
    await (graph.arrivals (graph.nextLayer placed)) (graph.waitingAfter placed) =
      graph.waitingAfter (placed ++ graph.nextLayer placed) := by
  have still : ∀ id ∈ graph.nodes, id ∉ placed ++ graph.nextLayer placed ↔
      graph.awaited placed id ≠ 0 ∧ id ∉ placed := by
    intro id member
    simp only [List.mem_append, nextLayer, List.mem_filter, member, true_and, decide_eq_true_eq]
    tauto
  simp only [await, waitingAfter, List.filter_map, List.map_map, List.filter_filter]
  have filtered : (graph.nodes.filter (· ∉ placed ++ graph.nextLayer placed)) =
      graph.nodes.filter fun id => graph.awaited placed id ≠ 0 ∧ id ∉ placed :=
    List.filter_congr fun id member => decide_eq_decide.2 (still id member)
  rw [filtered]
  simp [awaited_append, Function.comp_def]

/-! ## The layers -/

theorem length_await_lt (arrivals : List String) {waiting : List Waiting}
    (ready : released waiting ≠ []) : (await arrivals waiting).length < waiting.length := by
  obtain ⟨id, member⟩ := List.exists_mem_of_ne_nil _ ready
  obtain ⟨node, nodeMember, rfl⟩ := List.mem_map.1 member
  obtain ⟨isWaiting, nothing⟩ := List.mem_filter.1 nodeMember
  rw [await, List.length_map, List.length_filter_lt_length_iff_exists]
  exact ⟨node, isWaiting, by simpa using nothing⟩

theorem layersOf_succ {waiting : List Waiting} (ready : released waiting ≠ []) (bound : Nat) :
    graph.layersOf (bound + 1) waiting =
      released waiting ::
        graph.layersOf bound (await (graph.arrivals (released waiting)) waiting) := by
  rw [layersOf]
  split
  · contradiction
  · rfl

/-- As many layers as nodes that wait are enough. -/
theorem layersOf_eq {bound other : Nat} {waiting : List Waiting}
    (enough : waiting.length ≤ bound) (otherEnough : waiting.length ≤ other) :
    graph.layersOf bound waiting = graph.layersOf other waiting := by
  induction bound generalizing other waiting with
  | zero =>
      obtain rfl := List.length_eq_zero_iff.1 (Nat.le_zero.1 enough)
      cases other <;> rfl
  | succ bound ih =>
      cases other with
      | zero =>
          obtain rfl := List.length_eq_zero_iff.1 (Nat.le_zero.1 otherEnough)
          rfl
      | succ other =>
          by_cases ready : released waiting = []
          · simp only [layersOf, ready]
          · have shorter := length_await_lt (graph.arrivals (released waiting)) ready
            rw [layersOf_succ ready, layersOf_succ ready]
            exact congrArg _ (ih (by omega) (by omega))

/-- The layers that come when some nodes have been placed. -/
def layersAfter (graph : Graph) (placed : List String) : List (List String) :=
  graph.layersOf graph.nodes.length (graph.waitingAfter placed)

theorem layersAfter_nil (graph : Graph) : graph.layersAfter [] = graph.layers := by
  rw [layersAfter, waitingAfter_nil, layers]

/-- The layers end when no node can be placed. -/
theorem layersAfter_of_nil (nothing : graph.nextLayer placed = []) :
    graph.layersAfter placed = [] := by
  unfold layersAfter
  cases graph.nodes.length with
  | zero => rfl
  | succ bound => simp only [layersOf, released_waitingAfter, nothing]

/-- As long as nodes can be placed, all that can are in the next layer. -/
theorem layersAfter_of_ne_nil (some : graph.nextLayer placed ≠ []) :
    graph.layersAfter placed =
      graph.nextLayer placed :: graph.layersAfter (placed ++ graph.nextLayer placed) := by
  rw [← released_waitingAfter] at some
  have shorter := length_await_lt (graph.arrivals (graph.nextLayer placed)) some
  have enough : (graph.waitingAfter placed).length ≤ graph.nodes.length := by
    rw [waitingAfter, List.length_map]
    exact List.length_filter_le _ _
  unfold layersAfter
  cases bound : graph.nodes.length with
  | zero => omega
  | succ bound =>
      rw [layersOf_succ some, released_waitingAfter, ← await_waitingAfter]
      exact congrArg _ (layersOf_eq (by omega) (by omega))

/-! ## The nodes that are never placed -/

/-- What is known of the nodes that have been placed. -/
structure Placing (graph : Graph) (placed : List String) : Prop where
  distinct : placed.Nodup
  listed : placed ⊆ graph.nodes
  /-- No edge to a placed node is repeated. -/
  once : ∀ id ∈ placed, ¬graph.Doubled id
  /-- All that leads to a placed node has been placed. -/
  closed : ∀ id ∈ placed, ∀ source, graph.Leads source id → source ∈ placed
  /-- Every path back from a placed node comes to an end. -/
  accessible : ∀ id ∈ placed, Acc graph.Leads id

theorem mem_nextLayer_iff (distinct : placed.Nodup) :
    id ∈ graph.nextLayer placed ↔ (id ∈ graph.nodes ∧ id ∉ placed) ∧
      ¬graph.Doubled id ∧ ∀ source, graph.Leads source id → source ∈ placed := by
  rw [nextLayer, List.mem_filter, decide_eq_true_eq, awaited_eq_zero_iff distinct, and_assoc]

namespace Placing

theorem start (graph : Graph) : graph.Placing [] := by
  constructor <;> simp

/-- The next layer is placed. -/
theorem next (placing : graph.Placing placed) (nodes : graph.nodes.Nodup) :
    graph.Placing (placed ++ graph.nextLayer placed) := by
  have members : ∀ id, id ∈ graph.nextLayer placed ↔ _ :=
    fun _ => mem_nextLayer_iff placing.distinct
  refine ⟨?distinct, ?listed, ?once, ?closed, ?accessible⟩
  case distinct =>
    refine List.nodup_append.2 ⟨placing.distinct, nodes.filter _, ?_⟩
    rintro id isPlaced _ isNext rfl
    exact ((members id).1 isNext).1.2 isPlaced
  case listed => exact List.append_subset.2 ⟨placing.listed, List.filter_subset_self _⟩
  case once =>
    exact List.forall_mem_append.2 ⟨placing.once, fun id isNext => ((members id).1 isNext).2.1⟩
  case closed =>
    refine List.forall_mem_append.2 ⟨fun id isPlaced source leads => ?_,
      fun id isNext source leads => ?_⟩
    · exact List.mem_append_left _ (placing.closed id isPlaced source leads)
    · exact List.mem_append_left _ (((members id).1 isNext).2.2 source leads)
  case accessible =>
    refine List.forall_mem_append.2 ⟨placing.accessible, fun id isNext => ?_⟩
    exact ⟨id, fun source leads =>
      placing.accessible source (((members id).1 isNext).2.2 source leads)⟩

/-- The layers go on until nothing more can be placed. -/
theorem exists_last (placing : graph.Placing placed) (nodes : graph.nodes.Nodup) :
    ∃ last, graph.Placing last ∧ graph.nextLayer last = [] ∧
      placed ++ (graph.layersAfter placed).flatten = last := by
  induction room : graph.nodes.length - placed.length using Nat.strong_induction_on
      generalizing placed with
  | _ room ih =>
      by_cases nothing : graph.nextLayer placed = []
      · exact ⟨placed, placing, nothing, by simp [layersAfter_of_nil nothing]⟩
      · have next := placing.next nodes
        have few := (next.distinct.subperm next.listed).length_le
        have some := List.length_pos_of_ne_nil nothing
        rw [List.length_append] at few
        obtain ⟨last, isPlacing, isLast, same⟩ := ih _ (by rw [List.length_append]; omega) next rfl
        refine ⟨last, isPlacing, isLast, ?_⟩
        rw [← same, layersAfter_of_ne_nil nothing, List.flatten_cons, List.append_assoc]

/-- What a path to a placed node comes from has been placed as well. -/
theorem mem_of_path (placing : graph.Placing placed) {other : String}
    (path : ReflTransGen graph.Leads other id) (isPlaced : id ∈ placed) : other ∈ placed := by
  induction path using ReflTransGen.head_induction_on with
  | refl => exact isPlaced
  | head leads _ ih => exact placing.closed _ ih _ leads

/-- No placed node is behind a repeated edge. -/
theorem not_behindDoubled (placing : graph.Placing placed) (isPlaced : id ∈ placed) :
    ¬graph.BehindDoubled id := by
  rintro ⟨other, doubled, path⟩
  exact placing.once other (placing.mem_of_path path isPlaced) doubled

/-- A node that is left over in the end is behind a cycle, unless it is behind a repeated edge. -/
theorem behindCycle_of_not_placed (placing : graph.Placing placed)
    (joined : ∀ edge ∈ graph.edges, edge.source ∈ graph.nodes)
    (nothing : graph.nextLayer placed = []) (listed : id ∈ graph.nodes) (left : id ∉ placed)
    (single : ¬graph.BehindDoubled id) : graph.BehindCycle id := by
  have waits : ∀ other, other ∈ graph.nodes ∧ other ∉ placed ∧ ¬graph.BehindDoubled other →
      ∃ source, (source ∈ graph.nodes ∧ source ∉ placed ∧ ¬graph.BehindDoubled source) ∧
        graph.Leads source other := by
    rintro other ⟨otherListed, otherLeft, otherSingle⟩
    by_contra! free
    have isNext : other ∈ graph.nextLayer placed := by
      refine (mem_nextLayer_iff placing.distinct).2 ⟨⟨otherListed, otherLeft⟩, ?_, ?_⟩
      · exact fun doubled => otherSingle ⟨other, doubled, .refl⟩
      · intro source leads
        by_contra notPlaced
        refine free source ⟨joined _ leads, notPlaced, ?_⟩ leads
        rintro ⟨origin, doubled, path⟩
        exact otherSingle ⟨origin, doubled, path.tail leads⟩
    rw [nothing] at isNext
    contradiction
  exact behindCycle_of_waiting (fun _ isLeft => isLeft.1) waits ⟨listed, left, single⟩

end Placing

/-- The nodes in no layer are those behind a cycle and those behind a repeated edge. -/
theorem mem_flatten_layers_iff (nodes : graph.nodes.Nodup)
    (joined : ∀ edge ∈ graph.edges, edge.source ∈ graph.nodes) :
    id ∈ graph.layers.flatten ↔
      id ∈ graph.nodes ∧ ¬graph.BehindCycle id ∧ ¬graph.BehindDoubled id := by
  obtain ⟨last, placing, nothing, same⟩ := (Placing.start graph).exists_last nodes
  rw [layersAfter_nil, List.nil_append] at same
  rw [same]
  constructor
  · exact fun isPlaced => ⟨placing.listed isPlaced,
      not_behindCycle_of_acc (placing.accessible id isPlaced), placing.not_behindDoubled isPlaced⟩
  · rintro ⟨listed, clear, single⟩
    by_contra left
    exact clear (placing.behindCycle_of_not_placed joined nothing listed left single)

theorem not_behindDoubled_of_nodup (edges : graph.edges.Nodup) (id : String) :
    ¬graph.BehindDoubled id :=
  fun ⟨other, doubled, _⟩ => not_doubled_of_nodup edges other doubled

end PlanRunner.Graph
