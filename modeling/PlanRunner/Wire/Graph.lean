import PlanRunner.Graph.Basic
import PlanRunner.Wire.Record
import PlanRunner.Wire.Writer

/-!
# Written graphs

How dependency graphs are read from documents and written as JSON.
-/

namespace PlanRunner

/-- A node is written as a record of its identifier. -/
def Graph.nodeRecord : Record String where
  name := "struct DagNode"
  draft := ""
  fields := [.of "id" .required Reader.text fun _ id => id]

namespace Edge

/-- An edge is written with both of its ends. -/
def record : Record Edge where
  name := "struct DagEdge"
  draft := ⟨"", ""⟩
  fields :=
    [ .of "from" .required Reader.text fun edge source => { edge with source },
      .of "to" .required Reader.text fun edge target => { edge with target } ]

def toJson (edge : Edge) : Json :=
  .object [("from", .string edge.source), ("to", .string edge.target)]

end Edge

namespace Graph

/-- A graph is written with its nodes and its edges. -/
def record : Record Graph where
  name := "struct DagContract"
  draft := ⟨[], []⟩
  fields :=
    [ .of "nodes" .required (Reader.list nodeRecord.read) fun graph nodes =>
        { graph with nodes },
      .of "edges" .required (Reader.list Edge.record.read) fun graph edges =>
        { graph with edges } ]

def read : Reader Graph :=
  record.read

def toJson (graph : Graph) : Json :=
  .object
    [ ("nodes", Writer.list (fun id => .object [("id", .string id)]) graph.nodes),
      ("edges", Writer.list Edge.toJson graph.edges) ]

end Graph

end PlanRunner
