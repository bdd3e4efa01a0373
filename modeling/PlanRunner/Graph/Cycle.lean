import PlanRunner.Graph.Basic

/-!
# Cycles

A search in depth finds the first cycle that is reachable from the nodes in order, as a path that
ends where it starts.
-/

namespace PlanRunner.Graph

/-- Either a cycle was found, or the nodes that have been searched to the end without one. -/
inductive Search where
  | cycle (path : List String)
  | clear (done : List String)

/-- The part of a path, nearest node first, from a node on, closed by the same node again. -/
def closePath (path : List String) (id : String) : List String :=
  id :: ((path.takeWhile (· ≠ id)).reverse ++ [id])

mutual

/--
Searches from a node that is neither on the path nor done. The bound counts how many more nodes the
path may get.
-/
def searchFrom (graph : Graph) : Nat → List String → List String → String → Search
  | 0, _, done, id => .clear (id :: done)
  | bound + 1, path, done, id =>
      match searchAll graph bound (id :: path) done (graph.successors id) with
      | .cycle found => .cycle found
      | .clear done => .clear (id :: done)

/-- Searches from nodes in order, the last of them first on the path. -/
def searchAll (graph : Graph) : Nat → List String → List String → List String → Search
  | _, _, done, [] => .clear done
  | bound, path, done, id :: rest =>
      if id ∈ path then .cycle (closePath path id)
      else if id ∈ done then searchAll graph bound path done rest
      else
        match searchFrom graph bound path done id with
        | .cycle found => .cycle found
        | .clear done => searchAll graph bound path done rest

end

/-- A path without repetition has no more nodes than are listed or are targets of edges. -/
def pathBound (graph : Graph) : Nat :=
  graph.nodes.length + graph.edges.length

/-- The first cycle, from the first of its nodes that the search met back to the same node. -/
def findCycle (graph : Graph) : Option (List String) :=
  match searchAll graph graph.pathBound [] [] graph.nodes with
  | .cycle path => some path
  | .clear _ => none

end PlanRunner.Graph
