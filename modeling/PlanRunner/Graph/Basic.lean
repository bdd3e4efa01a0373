import PlanRunner.Plan.Step
import PlanRunner.Text.Blank

/-!
# Dependency graphs

The static shape of a plan: its identifiers in plan order, and an edge from every dependency to the
step that waits for it. A graph may have cycles; what it may not have to be valid are blank or
repeated identifiers, and edges from a node to itself or from an identifier that is no node.
-/

namespace PlanRunner

/-- The first node must be done before the second one may start. -/
structure Edge where
  source : String
  target : String
  deriving DecidableEq, Repr, Inhabited

/-- A dependency graph. -/
structure Graph where
  nodes : List String
  edges : List Edge
  deriving DecidableEq, Repr, Inhabited

/-- What can be wrong with a plan or with its graph. -/
inductive PlanError where
  | noSteps (plan : String)
  | blankId
  | duplicateId (id : String)
  | unknownDependency (step dependency : String)
  | selfDependency (id : String)
  deriving DecidableEq, Repr

/-- The text for what is wrong with a plan. -/
def PlanError.message : PlanError → String
  | .noSteps plan => "plan " ++ plan ++ " has no steps"
  | .blankId => "plan step id cannot be empty"
  | .duplicateId id => "duplicate plan step id: " ++ id
  | .unknownDependency step dependency =>
      "step " ++ step ++ " depends on unknown step " ++ dependency
  | .selfDependency id => "step " ++ id ++ " depends on itself"

namespace Graph

def ofSteps (steps : List Step) : Graph :=
  { nodes := steps.map (·.id)
    edges := steps.flatMap fun step => step.dependencies.ids.map fun id => ⟨id, step.id⟩ }

/-- The nodes that wait for a node, without repetition and in increasing order. -/
def successors (graph : Graph) (id : String) : List String :=
  (IdSet.ofList ((graph.edges.filter (·.source == id)).map (·.target))).ids

/-- The first blank or repeated identifier among nodes, given those before them. -/
def checkNodes : List String → List String → Except PlanError Unit
  | _, [] => .ok ()
  | before, id :: rest =>
      if Text.isBlankText id then .error .blankId
      else if id ∈ before then .error (.duplicateId id)
      else checkNodes (id :: before) rest

/-- The first edge from a node to itself or from an identifier that is no node. -/
def checkEdges (nodes : List String) : List Edge → Except PlanError Unit
  | [] => .ok ()
  | edge :: rest =>
      if edge.source = edge.target then .error (.selfDependency edge.target)
      else if edge.source ∈ nodes then checkEdges nodes rest
      else .error (.unknownDependency edge.target edge.source)

/-- What is wrong with a graph, if anything is: its nodes are checked before its edges. -/
def validate (graph : Graph) : Except PlanError Unit := do
  checkNodes [] graph.nodes
  checkEdges graph.nodes graph.edges

end Graph

end PlanRunner
