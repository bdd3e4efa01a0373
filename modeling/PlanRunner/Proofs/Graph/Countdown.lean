import PlanRunner.Proofs.Graph.Layers

/-!
# Counting down to the layers

The layers can be found by counting down: every node has a counter to the end, each arrival takes
one off the counter of its node, and the nodes whose counters come to zero in a round make up the
next layer. In a graph without repeated nodes the counters never have to go below zero, whatever its
edges are: what has been placed sends no node more arrivals than edges lead to it. So counting down
finds the layers, in which nothing is placed twice and nothing before what leads to it.
-/

namespace PlanRunner.Graph

variable {graph : Graph} {placed ids arrived arrivals : List String} {id : String}
  {counts : String → Nat}

/-! ## Counters -/

/-- A counter for every node, and the nodes whose counters have come to zero in this round. -/
structure Countdown where
  counters : List Waiting
  released : List String

/-- Takes one off the counter of a node, if the node has one. From zero nothing can be taken off. -/
def Countdown.arrive (state : Countdown) (id : String) : Option Countdown :=
  match state.counters.find? (·.id == id) with
  | none => some state
  | some ⟨_, 0⟩ => none
  | some ⟨_, left + 1⟩ =>
      some
        { counters := state.counters.map fun node =>
            if node.id = id then { node with count := left } else node
          released := if left = 0 then id :: state.released else state.released }

/-- Takes the arrivals from a layer off the counters, one after the other. -/
def countRound (graph : Graph) (counters : List Waiting) (layer : List String) :
    Option Countdown :=
  (graph.arrivals layer).foldlM Countdown.arrive ⟨counters, []⟩

/--
The layers from one on, in as many rounds as the bound allows. There are none if a counter would
have to go below zero, or if the rounds do not come to an end.
-/
def countLayers (graph : Graph) : Nat → List Waiting → List String → Option (List (List String))
  | _, _, [] => some []
  | 0, _, _ :: _ => none
  | bound + 1, counters, first :: rest => do
      let after ← graph.countRound counters (first :: rest)
      let later ← countLayers graph bound after.counters
        (graph.nodes.filter (· ∈ after.released))
      return (first :: rest) :: later

/-- The layers of a graph by counting down, in no more rounds than there are nodes. -/
def countedLayers? (graph : Graph) : Option (List (List String)) :=
  graph.countLayers graph.nodes.length graph.waiting (released graph.waiting)

/-! ## One round -/

/-- The counters of nodes. -/
def countersOf (ids : List String) (counts : String → Nat) : List Waiting :=
  ids.map fun id => ⟨id, counts id⟩

theorem find?_countersOf (listed : id ∈ ids) :
    (countersOf ids counts).find? (·.id == id) = some ⟨id, counts id⟩ := by
  induction ids with
  | nil => contradiction
  | cons first rest ih =>
      by_cases same : first = id
      · simp [countersOf, same]
      · have later := ih ((List.mem_cons.1 listed).resolve_left (Ne.symm same))
        rw [countersOf, List.map_cons, List.find?_cons_of_neg (by simpa using same)]
        exact later

theorem find?_countersOf_of_not_mem (unlisted : id ∉ ids) :
    (countersOf ids counts).find? (·.id == id) = none := by
  rw [List.find?_eq_none]
  rintro _ member
  obtain ⟨other, isListed, rfl⟩ := List.mem_map.1 member
  simpa using fun same : other = id => unlisted (same ▸ isListed)

/-- What counters show after some arrivals. -/
structure Countdown.Shows (ids : List String) (counts : String → Nat) (arrived : List String)
    (state : Countdown) : Prop where
  counters : state.counters = countersOf ids fun id => counts id - arrived.count id
  released : ∀ id, id ∈ state.released ↔
    id ∈ ids ∧ counts id ≠ 0 ∧ counts id = arrived.count id

namespace Countdown.Shows

variable {state : Countdown}

theorem start (ids : List String) (counts : String → Nat) :
    Shows ids counts [] ⟨countersOf ids counts, []⟩ := by
  constructor
  · simp
  · simp only [List.not_mem_nil, List.count_nil, false_iff]
    rintro id ⟨-, some, none⟩
    exact some none

/-- An arrival at a node whose counter is not at zero is taken off. -/
theorem arrive (shows : Shows ids counts arrived state) (id : String)
    (some : id ∈ ids → arrived.count id < counts id) :
    ∃ next, state.arrive id = .some next ∧ Shows ids counts (arrived ++ [id]) next := by
  have counted : ∀ other, other ≠ id → (arrived ++ [id]).count other = arrived.count other := by
    intro other different
    simp [different.symm]
  by_cases listed : id ∈ ids
  · obtain ⟨left, isLeft⟩ := Nat.exists_eq_add_of_lt (some listed)
    have found : state.counters.find? (·.id == id) = .some ⟨id, left + 1⟩ := by
      rw [shows.counters, find?_countersOf listed]
      congr 2
      omega
    have countedSelf : (arrived ++ [id]).count id = arrived.count id + 1 := by simp
    refine ⟨_, by rw [Countdown.arrive, found], ?counters, ?released⟩
    case counters =>
      rw [shows.counters, countersOf, countersOf, List.map_map]
      refine List.map_congr_left fun other _ => ?_
      by_cases same : other = id
      · subst same
        simp only [Function.comp_apply, if_true, countedSelf]
        congr 1
        omega
      · simp [same, counted other same]
    case released =>
      intro other
      by_cases same : other = id
      · subst same
        rw [countedSelf]
        have before := shows.released other
        split <;> grind
      · have before := shows.released other
        rw [counted other same, ← before]
        split <;> simp [same]
  · refine ⟨state, ?_, ?counters, ?released⟩
    · rw [Countdown.arrive, shows.counters, find?_countersOf_of_not_mem listed]
    case counters =>
      rw [shows.counters]
      refine List.map_congr_left fun other member => ?_
      simp only [counted other fun same => listed (same ▸ member)]
    case released =>
      intro other
      rw [shows.released]
      refine and_congr_right fun member => ?_
      rw [counted other fun same => listed (same ▸ member)]

/-- Arrivals are taken off one by one, if no node gets more of them than its counter shows. -/
theorem arriveAll (shows : Shows ids counts arrived state)
    (enough : ∀ id ∈ ids, (arrived ++ arrivals).count id ≤ counts id) :
    ∃ last, arrivals.foldlM Countdown.arrive state = some last ∧
      Shows ids counts (arrived ++ arrivals) last := by
  induction arrivals generalizing arrived state with
  | nil => exact ⟨state, rfl, by simpa using shows⟩
  | cons first rest ih =>
      obtain ⟨next, arrives, showsNext⟩ := shows.arrive first fun listed => by
        have bound := enough first listed
        simp only [List.count_append, List.count_cons_self] at bound
        omega
      obtain ⟨last, arrived, showsLast⟩ := ih showsNext (by simpa using enough)
      refine ⟨last, ?_, by simpa using showsLast⟩
      rw [List.foldlM_cons, arrives]
      exact arrived

end Countdown.Shows

/-! ## All rounds -/

/-- What has been placed sends a node no more arrivals than edges lead to it. -/
theorem arrived_le_inDegree (graph : Graph) (distinct : placed.Nodup) (id : String) :
    graph.arrived placed id ≤ graph.inDegree id := by
  rw [arrived, List.countP_eq_length_filter, ← length_sources]
  refine ((distinct.filter _).subperm fun source member => ?_).length_le
  simpa using (List.mem_filter.1 member).2

/-- A placed node waits for nothing. -/
theorem Placing.awaited_eq_zero (placing : graph.Placing placed) (isPlaced : id ∈ placed) :
    graph.awaited placed id = 0 :=
  (awaited_eq_zero_iff placing.distinct).2 ⟨placing.once id isPlaced, placing.closed id isPlaced⟩

/-- The nodes of the layer after the next one wait for arrivals from the next one. -/
theorem Placing.mem_nextLayer_next_iff (placing : graph.Placing placed) (id : String) :
    id ∈ graph.nextLayer (placed ++ graph.nextLayer placed) ↔
      id ∈ graph.nodes ∧ graph.awaited placed id ≠ 0 ∧
        graph.awaited (placed ++ graph.nextLayer placed) id = 0 := by
  have isNext : id ∈ graph.nextLayer placed ↔
      id ∈ graph.nodes ∧ id ∉ placed ∧ graph.awaited placed id = 0 := by simp [nextLayer]
  have whenPlaced : id ∈ placed → graph.awaited placed id = 0 := placing.awaited_eq_zero
  simp only [nextLayer, List.mem_filter, decide_eq_true_eq, List.mem_append] at isNext ⊢
  tauto

/-- A round turns the counters and releases the next layer. -/
theorem Placing.countRound_eq (placing : graph.Placing placed) (nodes : graph.nodes.Nodup) :
    ∃ after,
      graph.countRound (countersOf graph.nodes (graph.awaited placed)) (graph.nextLayer placed) =
        some after ∧
      after.counters =
        countersOf graph.nodes (graph.awaited (placed ++ graph.nextLayer placed)) ∧
      graph.nodes.filter (· ∈ after.released) =
        graph.nextLayer (placed ++ graph.nextLayer placed) := by
  have awaited := graph.awaited_append placed (graph.nextLayer placed)
  have enough : ∀ id, (graph.arrivals (graph.nextLayer placed)).count id ≤
      graph.awaited placed id := by
    intro id
    have most := graph.arrived_le_inDegree (placing.next nodes).distinct id
    rw [arrived, List.countP_append, ← arrived, ← arrived, ← count_arrivals graph
      (graph.nextLayer placed)] at most
    rw [Graph.awaited]
    omega
  obtain ⟨after, round, shows⟩ : ∃ after, graph.countRound _ (graph.nextLayer placed) = some after ∧
      Countdown.Shows graph.nodes (graph.awaited placed)
        ([] ++ graph.arrivals (graph.nextLayer placed)) after :=
    (Countdown.Shows.start graph.nodes (graph.awaited placed)).arriveAll fun id _ => enough id
  rw [List.nil_append] at shows
  refine ⟨after, round, ?counters, ?released⟩
  case counters =>
    rw [shows.counters]
    exact List.map_congr_left fun id _ => congrArg (Waiting.mk id) (awaited id).symm
  case released =>
    refine List.filter_congr fun id listed => decide_eq_decide.2 ?_
    have isNext := placing.mem_nextLayer_next_iff id
    have most := enough id
    rw [nextLayer, List.mem_filter, and_iff_right listed, and_iff_right listed,
      decide_eq_true_eq] at isNext
    rw [isNext, shows.released, and_iff_right listed, awaited]
    exact and_congr_right fun _ => by omega

/-- A layer that comes next takes room. -/
theorem Placing.length_lt (placing : graph.Placing placed) (nodes : graph.nodes.Nodup)
    (some : graph.nextLayer placed ≠ []) :
    placed.length < (placed ++ graph.nextLayer placed).length ∧
      (placed ++ graph.nextLayer placed).length ≤ graph.nodes.length := by
  have next := placing.next nodes
  refine ⟨?_, (next.distinct.subperm next.listed).length_le⟩
  have positive := List.length_pos_of_ne_nil some
  rw [List.length_append]
  omega

/-- Counting down finds the layers that come when some nodes have been placed. -/
theorem Placing.countLayers_eq (placing : graph.Placing placed) (nodes : graph.nodes.Nodup)
    {bound : Nat} (room : graph.nodes.length - placed.length ≤ bound) :
    graph.countLayers bound (countersOf graph.nodes (graph.awaited placed))
      (graph.nextLayer placed) = some (graph.layersAfter placed) := by
  induction bound generalizing placed with
  | zero =>
      have nothing : graph.nextLayer placed = [] := by
        by_contra some
        have lengths := placing.length_lt nodes some
        omega
      rw [layersAfter_of_nil nothing, nothing, countLayers]
  | succ bound ih =>
      by_cases nothing : graph.nextLayer placed = []
      · rw [layersAfter_of_nil nothing, nothing, countLayers]
      · have lengths := placing.length_lt nodes nothing
        obtain ⟨after, round, counters, releases⟩ := placing.countRound_eq nodes
        have later := ih (placing.next nodes) (by omega)
        rw [layersAfter_of_ne_nil nothing]
        cases layer : graph.nextLayer placed with
        | nil => exact absurd layer nothing
        | cons first rest =>
            rw [layer] at round counters releases later
            simp only [countLayers, round, counters, releases, later, Option.bind_eq_bind,
              Option.bind_some, Option.pure_def]

/-- A layer holds what came next when the layers before it had been placed. -/
theorem Placing.of_split (placing : graph.Placing placed) (nodes : graph.nodes.Nodup)
    {earlier later : List (List String)} {layer : List String}
    (split : graph.layersAfter placed = earlier ++ layer :: later) :
    graph.Placing (placed ++ earlier.flatten) ∧
      layer = graph.nextLayer (placed ++ earlier.flatten) ∧ layer ≠ [] := by
  induction earlier generalizing placed with
  | nil =>
      by_cases nothing : graph.nextLayer placed = []
      · rw [layersAfter_of_nil nothing] at split
        contradiction
      · rw [layersAfter_of_ne_nil nothing, List.nil_append, List.cons.injEq] at split
        rw [List.flatten_nil, List.append_nil, ← split.1]
        exact ⟨placing, rfl, nothing⟩
  | cons first rest ih =>
      by_cases nothing : graph.nextLayer placed = []
      · rw [layersAfter_of_nil nothing] at split
        contradiction
      · rw [layersAfter_of_ne_nil nothing, List.cons_append, List.cons.injEq] at split
        obtain ⟨rfl, onwards⟩ := split
        have later := ih (placing.next nodes) onwards
        rwa [List.append_assoc, ← List.flatten_cons] at later

/--
In a graph without repeated nodes, whatever its edges, counting down to the layers comes to an end
and no counter has to go below zero. No node is placed twice, no layer is empty, and the nodes of a
layer stand in the order of the graph. Every edge to a placed node comes from a node that has been
placed in an earlier layer.
-/
theorem counts_down_to_layers (nodes : graph.nodes.Nodup) :
    graph.countedLayers? = some graph.layers ∧
    graph.layers.flatten.Nodup ∧
    ∀ earlier layer later, graph.layers = earlier ++ layer :: later →
      layer ≠ [] ∧ layer.Sublist graph.nodes ∧
      ∀ edge ∈ graph.edges, edge.target ∈ layer →
        edge.source ∈ graph.nodes ∧ edge.source ∈ earlier.flatten := by
  have start := Placing.start graph
  refine ⟨?counted, ?once, fun earlier layer later split => ?ordered⟩
  case counted =>
    have counted := start.countLayers_eq nodes (Nat.sub_le _ _)
    rw [layersAfter_nil, ← released_waitingAfter, waitingAfter_nil] at counted
    exact counted
  case once =>
    obtain ⟨last, placing, -, same⟩ := start.exists_last nodes
    rw [layersAfter_nil, List.nil_append] at same
    exact same ▸ placing.distinct
  case ordered =>
    rw [← layersAfter_nil] at split
    obtain ⟨placing, rfl, some⟩ := start.of_split nodes split
    rw [List.nil_append] at placing some ⊢
    refine ⟨some, List.filter_sublist, fun edge member isPlaced => ?_⟩
    have earlierPlaced := ((mem_nextLayer_iff placing.distinct).1 isPlaced).2.2 edge.source member
    exact ⟨placing.listed earlierPlaced, earlierPlaced⟩

/-- The graph of a bakery, with a repeated edge, one that leads back, and two from or to nowhere. -/
def bakeryGraph : Graph :=
  { nodes := ["dough", "flour", "bread", "oven", "stamp", "label"]
    edges :=
      [⟨"flour", "dough"⟩, ⟨"dough", "bread"⟩, ⟨"oven", "bread"⟩, ⟨"oven", "label"⟩,
        ⟨"oven", "label"⟩, ⟨"stamp", "stamp"⟩, ⟨"printer", "label"⟩, ⟨"bread", "shop"⟩] }

/-- The bread is placed behind the dough and the oven, which are in layers of their own. -/
theorem counts_down_to_layers_bakery :
    bakeryGraph.nodes.Nodup ∧
    bakeryGraph.layers = [["flour", "oven"], ["dough"], ["bread"]] ∧
    bakeryGraph.countedLayers? = some bakeryGraph.layers ∧
    bakeryGraph.layers.flatten.Nodup ∧
    ∀ edge ∈ bakeryGraph.edges, edge.target = "bread" →
      edge.source ∈ [["flour", "oven"], ["dough"]].flatten := by
  have nodes : bakeryGraph.nodes.Nodup := by decide
  have layers : bakeryGraph.layers = [["flour", "oven"], ["dough"]] ++ ["bread"] :: [] := by
    decide +kernel
  obtain ⟨counted, once, ordered⟩ := counts_down_to_layers nodes
  obtain ⟨-, -, before⟩ := ordered _ _ _ layers
  exact ⟨nodes, layers, counted, once, fun edge member isBread =>
    (before edge member (List.mem_singleton.2 isBread)).2⟩

/-- Where a node is repeated it sends more arrivals than edges lead from it. -/
example : countedLayers? ⟨["oven", "oven", "bread"], [⟨"oven", "bread"⟩]⟩ = none := by
  decide +kernel

end PlanRunner.Graph
