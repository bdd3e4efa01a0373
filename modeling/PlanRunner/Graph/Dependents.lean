import PlanRunner.Plan.Basic

/-!
# Dependents

The nodes that wait for a node, directly or through others. A step that failed can still lead
somewhere as long as it may be retried, or some step that waits for it was not skipped.
-/

namespace PlanRunner

namespace Graph

/--
Follows the edges from the nodes of a queue, and queues each node that is reached for the first
time. The bound counts how many more nodes may be taken from the queue.
-/
def reachFrom (graph : Graph) : Nat → List String → IdSet → IdSet
  | 0, _, reached => reached
  | _, [], reached => reached
  | bound + 1, id :: queue, reached =>
      let fresh := (graph.successors id).filter (· ∉ reached)
      reachFrom graph bound (queue ++ fresh) (reached.insertAll fresh)

/--
The nodes other than the root that a path of edges leads to. Besides the root, only targets of edges
get into the queue, and each of them once.
-/
def dependents (graph : Graph) (root : String) : IdSet :=
  (graph.reachFrom (graph.edges.length + 1) [root] ∅).erase root

end Graph

namespace Plan

/-- Whether a step that waits for a failed one was not skipped. -/
def hasLiveDependent (plan : Plan) (id : String) : Bool :=
  (plan.graph.dependents id).ids.any fun dependent =>
    match Step.find? plan.steps dependent with
    | some step => step.status ≠ .skipped
    | none => false

/-- Whether some failed step can still lead somewhere. -/
def hasViableContinuation (plan : Plan) (defaultMaxRetries : UInt32) : Bool :=
  plan.steps.any fun step =>
    step.isBlockingFailure &&
      (step.hasRetryBudget defaultMaxRetries || plan.hasLiveDependent step.id)

end Plan

end PlanRunner
