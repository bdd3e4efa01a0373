import Mathlib.Data.Fintype.Card
import Mathlib.Data.Set.Finite.List
import Mathlib.Logic.Relation
import PlanRunner.Graph.Basic

/-!
# Paths

The edges of a graph as a relation, and its paths as the closure of that relation. A node is behind
a cycle if a path leads to it from a node that a path leads back to; a node that lies on a cycle
itself counts as well. Among finitely many nodes of which each waits for another one of them, every
node is behind a cycle.
-/

namespace PlanRunner.Graph

open Relation

variable {graph : Graph} {id : String}

/-- An edge leads from one node to another. -/
def Leads (graph : Graph) (source target : String) : Prop :=
  ⟨source, target⟩ ∈ graph.edges

/-- A node is on a cycle, or a path leads to it from a node that is. -/
def BehindCycle (graph : Graph) (id : String) : Prop :=
  ∃ other, TransGen graph.Leads other other ∧ ReflTransGen graph.Leads other id

theorem mem_successors {source : String} :
    id ∈ graph.successors source ↔ graph.Leads source id := by
  simp only [successors, IdSet.mem_ids, IdSet.mem_ofList, Leads, List.mem_map, List.mem_filter,
    beq_iff_eq]
  constructor
  · rintro ⟨edge, ⟨member, rfl⟩, rfl⟩
    exact member
  · exact fun leads => ⟨⟨source, id⟩, ⟨leads, rfl⟩, rfl⟩

theorem nodup_successors (graph : Graph) (id : String) : (graph.successors id).Nodup :=
  (IdSet.sorted _).imp fun before => Std.ne_of_lt before

/-- In the graph of a list of steps an edge leads from every dependency of a step to the step. -/
theorem leads_ofSteps {steps : List Step} {source target : String} :
    (ofSteps steps).Leads source target ↔
      ∃ step ∈ steps, step.id = target ∧ source ∈ step.dependencies := by
  simp only [Leads, ofSteps, List.mem_flatMap, List.mem_map, Edge.mk.injEq, IdSet.mem_ids]
  constructor
  · rintro ⟨step, member, dependency, depends, rfl, rfl⟩
    exact ⟨step, member, rfl, depends⟩
  · rintro ⟨step, member, rfl, depends⟩
    exact ⟨step, member, source, depends, rfl, rfl⟩

/-- Nothing that can be reached from below in finitely many steps lies on a cycle. -/
theorem not_transGen_self_of_acc (accessible : Acc graph.Leads id) :
    ¬TransGen graph.Leads id id := by
  have along : Acc (TransGen graph.Leads) id := acc_transGen_iff.2 accessible
  induction along with
  | intro id _ ih =>
      intro cycle
      exact ih id cycle (accessible.inv_of_transGen cycle) cycle

/-- Nothing that can be reached from below in finitely many steps is behind a cycle. -/
theorem not_behindCycle_of_acc (accessible : Acc graph.Leads id) : ¬graph.BehindCycle id := by
  rintro ⟨other, cycle, path⟩
  have otherAccessible : Acc graph.Leads other := by
    rcases reflTransGen_iff_eq_or_transGen.1 path with rfl | longer
    · exact accessible
    · exact accessible.inv_of_transGen longer
  exact not_transGen_self_of_acc otherAccessible cycle

/-- A node is behind a cycle if it is one of finitely many that each wait for another one. -/
theorem behindCycle_of_waiting {waiting : String → Prop}
    (listed : ∀ id, waiting id → id ∈ graph.nodes)
    (waits : ∀ id, waiting id → ∃ other, waiting other ∧ graph.Leads other id)
    (member : waiting id) : graph.BehindCycle id := by
  by_contra clear
  -- Only the nodes with a path to the given one are known to be on no cycle.
  let Upstream := { other // waiting other ∧ ReflTransGen graph.Leads other id }
  let Before (first second : Upstream) : Prop := TransGen graph.Leads first.1 second.1
  have finite : Finite Upstream :=
    (List.finite_toSet graph.nodes).subset fun other upstream => listed other upstream.1
  have transitive : IsTrans Upstream Before := ⟨fun _ _ _ first second => first.trans second⟩
  have irreflexive : Std.Irrefl Before :=
    ⟨fun other cycle => clear ⟨other.1, cycle, other.2.2⟩⟩
  have wellFounded : WellFounded Before := Finite.wellFounded_of_trans_of_irrefl Before
  have nowhere : ∀ first : Upstream, False := by
    intro first
    induction first using wellFounded.induction with
    | _ first ih =>
        obtain ⟨other, isWaiting, leads⟩ := waits first.1 first.2.1
        exact ih ⟨other, isWaiting, .head leads first.2.2⟩ (.single leads)
  exact nowhere ⟨id, member, .refl⟩

end PlanRunner.Graph
