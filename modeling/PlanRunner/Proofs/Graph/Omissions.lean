import PlanRunner.Proofs.Graph.Cycles
import PlanRunner.Proofs.Graph.Layers
import PlanRunner.Proofs.Plan.Validity

/-!
# What the layers leave out

A repeated edge counts each time in what its target waits for, and yet a placed node sends a single
arrival. So the layers of a graph that is let through leave out the targets of repeated edges and
all behind them, beside the nodes that are behind a cycle. The graph of a plan repeats no edge.
-/

namespace PlanRunner.Graph

open Relation

variable {graph : Graph} {id : String}

/-- Where edges come from listed nodes, no node is behind a cycle unless one is found. -/
theorem not_behindCycle_of_findCycle (joined : ∀ edge ∈ graph.edges, edge.source ∈ graph.nodes)
    (nothing : graph.findCycle = none) : ¬graph.BehindCycle id := by
  rintro ⟨other, cycle, -⟩
  obtain ⟨next, leads, -⟩ := TransGen.head'_iff.1 cycle
  exact findCycle_eq_none_iff.1 nothing other (.of_mem (joined _ leads)) cycle

/--
The layers of a graph that is let through leave out just the nodes that are behind a cycle and those
that are behind a repeated edge. If no cycle is found then only repeated edges lose nodes. If no
edge is repeated then only cycles do, and without either every node is in a layer.
-/
theorem layers_leave_out (valid : graph.validate = .ok ()) :
    (∀ id ∈ graph.nodes,
      id ∉ graph.layers.flatten ↔ graph.BehindCycle id ∨ graph.BehindDoubled id) ∧
    (graph.findCycle = none →
      ∀ id ∈ graph.nodes, id ∉ graph.layers.flatten ↔ graph.BehindDoubled id) ∧
    (graph.edges.Nodup →
      ∀ id ∈ graph.nodes, id ∉ graph.layers.flatten ↔ graph.BehindCycle id) ∧
    (graph.edges.Nodup → graph.findCycle = none →
      ∀ id ∈ graph.nodes, id ∈ graph.layers.flatten) := by
  obtain ⟨-, nodes, edges⟩ := validate_eq_ok_iff.1 valid
  have joined : ∀ edge ∈ graph.edges, edge.source ∈ graph.nodes :=
    fun edge member => (edges edge member).2
  have omitted : ∀ id ∈ graph.nodes,
      id ∉ graph.layers.flatten ↔ graph.BehindCycle id ∨ graph.BehindDoubled id := by
    intro id listed
    rw [mem_flatten_layers_iff nodes joined, and_iff_right listed, ← not_or, not_not]
  have acyclic : graph.findCycle = none → ∀ id, ¬graph.BehindCycle id :=
    fun nothing id => not_behindCycle_of_findCycle joined nothing
  refine ⟨omitted, ?acyclic, ?single, ?both⟩
  case acyclic =>
    intro nothing id listed
    rw [omitted id listed, or_iff_right (acyclic nothing id)]
  case single =>
    intro once id listed
    rw [omitted id listed, or_iff_left (not_behindDoubled_of_nodup once id)]
  case both =>
    intro once nothing id listed
    by_contra left
    rcases (omitted id listed).1 left with behind | doubled
    · exact acyclic nothing id behind
    · exact not_behindDoubled_of_nodup once id doubled

/-- The graph of a print shop, in which the order of the print is noted twice. -/
def shopGraph : Graph :=
  { nodes := ["order", "print", "bind", "layout", "edit", "ship"]
    edges :=
      [⟨"order", "print"⟩, ⟨"print", "bind"⟩, ⟨"order", "print"⟩, ⟨"layout", "edit"⟩,
        ⟨"edit", "layout"⟩, ⟨"edit", "ship"⟩] }

/-- The same without the cycle. -/
def doubledGraph : Graph :=
  { nodes := ["order", "print", "bind"]
    edges := [⟨"order", "print"⟩, ⟨"print", "bind"⟩, ⟨"order", "print"⟩] }

/-- The same without the second note. -/
def singleGraph : Graph :=
  { doubledGraph with edges := [⟨"order", "print"⟩, ⟨"print", "bind"⟩] }

/-- Of the print shop only the order is in a layer, and each of the others is left out for cause. -/
theorem layers_leave_out_shop :
    shopGraph.validate = .ok () ∧ shopGraph.layers = [["order"]] ∧
    (shopGraph.BehindCycle "ship" ∨ shopGraph.BehindDoubled "ship") ∧
    (shopGraph.BehindCycle "bind" ∨ shopGraph.BehindDoubled "bind") ∧
    doubledGraph.validate = .ok () ∧ doubledGraph.findCycle = none ∧
    doubledGraph.BehindDoubled "bind" ∧
    singleGraph.validate = .ok () ∧ singleGraph.edges.Nodup ∧ singleGraph.findCycle = none ∧
    ¬singleGraph.BehindCycle "bind" ∧ "bind" ∈ singleGraph.layers.flatten := by
  have shop : shopGraph.validate = .ok () := rfl
  have doubled : doubledGraph.validate = .ok () := rfl
  have single : singleGraph.validate = .ok () := rfl
  have layers : shopGraph.layers = [["order"]] := by decide +kernel
  have lost : "bind" ∉ doubledGraph.layers.flatten := by decide +kernel
  have none : doubledGraph.findCycle = none := by cbv
  have singleNone : singleGraph.findCycle = .none := by cbv
  have once : singleGraph.edges.Nodup := by decide
  obtain ⟨omitted, -⟩ := layers_leave_out shop
  obtain ⟨-, byDoubled, -⟩ := layers_leave_out doubled
  obtain ⟨-, -, byCycle, complete⟩ := layers_leave_out single
  have placed := complete once singleNone "bind" (by decide)
  refine ⟨shop, layers, (omitted "ship" (by decide)).1 ?_, (omitted "bind" (by decide)).1 ?_,
    doubled, none, (byDoubled none "bind" (by decide)).1 lost, single, once, singleNone,
    fun behind => (byCycle once "bind" (by decide)).2 behind placed, placed⟩
  · rw [layers]
    decide
  · rw [layers]
    decide

/-- A repeated edge keeps its target out of the layers, though no cycle leads there. -/
theorem doubled_edge_loses_node :
    doubledGraph.validate = .ok () ∧ doubledGraph.findCycle = none ∧
    "print" ∈ doubledGraph.nodes ∧ "print" ∉ doubledGraph.layers.flatten ∧
    ¬doubledGraph.BehindCycle "print" := by
  have none : doubledGraph.findCycle = none := by cbv
  refine ⟨rfl, none, by decide, by decide +kernel, ?_⟩
  exact not_behindCycle_of_findCycle (by decide) none

end PlanRunner.Graph
