import PlanRunner.Graph.Basic

/-!
# Layers

Groups of nodes that would run together if every step succeeded. Every node waits for as many
arrivals as edges lead to it, and a placed node sends one to each of its successors. A node is
placed as soon as it waits for nothing. Nodes on a cycle or behind one are never placed.
-/

namespace PlanRunner.Graph

/-- A node that has not been placed, and how many arrivals it still waits for. -/
structure Waiting where
  id : String
  count : Nat
  deriving DecidableEq, Repr

/-- How many edges lead to a node; repeated edges count each time. -/
def inDegree (graph : Graph) (id : String) : Nat :=
  (graph.edges.filter (·.target == id)).length

/-- All nodes in order, before any of them is placed. -/
def waiting (graph : Graph) : List Waiting :=
  graph.nodes.map fun id => ⟨id, graph.inDegree id⟩

/-- Where the arrivals from a layer of nodes go. -/
def arrivals (graph : Graph) (layer : List String) : List String :=
  layer.flatMap graph.successors

/-- The nodes that wait for nothing. -/
def released (waiting : List Waiting) : List String :=
  (waiting.filter (·.count = 0)).map (·.id)

/-- The nodes that still wait after some arrivals. -/
def await (arrivals : List String) (waiting : List Waiting) : List Waiting :=
  (waiting.filter (·.count ≠ 0)).map fun node =>
    { node with count := node.count - arrivals.count node.id }

/-- The layers out of nodes that have not been placed, as many as the bound allows. -/
def layersOf (graph : Graph) : Nat → List Waiting → List (List String)
  | 0, _ => []
  | bound + 1, waiting =>
      match released waiting with
      | [] => []
      | layer => layer :: layersOf graph bound (await (graph.arrivals layer) waiting)

/-- The layers of a graph without repeated nodes; there are no more of them than nodes. -/
def layers (graph : Graph) : List (List String) :=
  graph.layersOf graph.nodes.length graph.waiting

end PlanRunner.Graph
