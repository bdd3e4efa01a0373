import PlanRunner.Plan.Basic
import PlanRunner.Proofs.Graph.Dependents

/-!
# Walking to the dependents

The dependents of a node can be found by meeting nodes one by one: as long as nodes are queued, the
first of them is followed, and each node that it leads to is queued when it is met for the first
time. Every such walk comes to an end, also where edges lead back, since only targets of edges are
met. In the graph of a plan it finds the other steps that depend on the node, directly or through
others.
-/

namespace PlanRunner

open Relation

/-- A step of a list depends on another one, directly or through others. -/
inductive Step.DependsOn (steps : List Step) : String → String → Prop where
  | directly {step : Step} {id : String} (member : step ∈ steps)
      (depends : id ∈ step.dependencies) : DependsOn steps step.id id
  | through {step : Step} {between id : String} (member : step ∈ steps)
      (depends : between ∈ step.dependencies) (onwards : DependsOn steps between id) :
      DependsOn steps step.id id

/-- Only steps of the list depend on anything. -/
theorem Step.DependsOn.exists_step {steps : List Step} {id other : String}
    (depends : DependsOn steps id other) : ∃ step ∈ steps, step.id = id := by
  cases depends with
  | directly member _ => exact ⟨_, member, rfl⟩
  | through member _ _ => exact ⟨_, member, rfl⟩

namespace Graph

variable {graph : Graph} {bound : Nat} {queue ids : List String} {met : IdSet} {id : String}

/-- A path leads from what a step depends on to the step. -/
theorem transGen_leads_ofSteps {steps : List Step} {source target : String} :
    TransGen (ofSteps steps).Leads source target ↔ Step.DependsOn steps target source := by
  constructor
  · intro path
    induction path with
    | single leads =>
        obtain ⟨step, member, rfl, depends⟩ := leads_ofSteps.1 leads
        exact .directly member depends
    | tail _ leads ih =>
        obtain ⟨step, member, rfl, depends⟩ := leads_ofSteps.1 leads
        exact .through member depends ih
  · intro depends
    induction depends with
    | directly member depends => exact .single (leads_ofSteps.2 ⟨_, member, rfl, depends⟩)
    | through member depends _ ih => exact ih.tail (leads_ofSteps.2 ⟨_, member, rfl, depends⟩)

/-- How far a walk has come: the nodes to be followed next, and all that have been met. -/
structure Walk where
  queue : List String
  met : IdSet

namespace Walk

/-- A node is queued when it is met for the first time. -/
def meet (walk : Walk) (id : String) : Walk :=
  if id ∈ walk.met then walk
  else { queue := walk.queue ++ [id], met := walk.met.insert id }

/--
All nodes that have been met when no more are queued, or nothing if nodes are still queued after as
many turns as the bound allows.
-/
def finish? (graph : Graph) : Nat → Walk → Option IdSet
  | _, ⟨[], met⟩ => some met
  | 0, ⟨_ :: _, _⟩ => none
  | bound + 1, ⟨id :: queue, met⟩ =>
      finish? graph bound ((graph.successors id).foldl meet ⟨queue, met⟩)

/-- Of distinct nodes those are queued, in their order, that had not been met. -/
theorem foldl_meet (walk : Walk) (distinct : ids.Nodup) :
    ids.foldl meet walk =
      { queue := walk.queue ++ ids.filter (· ∉ walk.met)
        met := walk.met.insertAll (ids.filter (· ∉ walk.met)) } := by
  induction ids generalizing walk with
  | nil => simp [IdSet.insertAll]
  | cons first rest ih =>
      obtain ⟨once, distinct⟩ := List.nodup_cons.1 distinct
      rw [List.foldl_cons, ih _ distinct]
      by_cases known : first ∈ walk.met
      · have passed : walk.meet first = walk := if_pos known
        rw [passed, List.filter_cons_of_neg (by simpa using known)]
      · have queued : walk.meet first = ⟨walk.queue ++ [first], walk.met.insert first⟩ :=
          if_neg known
        -- The nodes are distinct, so to meet the first changes nothing about the others.
        have unchanged :
            rest.filter (· ∉ walk.met.insert first) = rest.filter (· ∉ walk.met) := by
          refine List.filter_congr fun id member => ?_
          have apart : id ≠ first := fun same => once (same ▸ member)
          simp [apart]
        rw [queued, unchanged, List.filter_cons_of_pos (by simpa using known), List.append_assoc]
        rfl

theorem finish?_nil : finish? graph bound ⟨[], met⟩ = some met := by
  rw [finish?]

/-- In a turn the first of the queue is followed, and what it leads to is queued if it is new. -/
theorem finish?_cons :
    finish? graph (bound + 1) ⟨id :: queue, met⟩ =
      finish? graph bound ⟨queue ++ graph.fresh met id, met.insertAll (graph.fresh met id)⟩ := by
  have queued := foldl_meet ⟨queue, met⟩ (graph.nodup_successors id)
  rw [finish?]
  exact congrArg (finish? graph bound) queued

end Walk

/-- Where there is room for all that may be met, a walk ends with what is reached in bounds. -/
theorem Spreading.finish?_eq (spreading : graph.Spreading bound queue met) :
    Walk.finish? graph bound ⟨queue, met⟩ = some (graph.reachFrom bound queue met) := by
  induction bound generalizing queue met with
  | zero =>
      -- The room is used up, so that nothing can be queued any more.
      obtain rfl := spreading.queue_eq_nil
      rw [Walk.finish?_nil, reachFrom_nil]
  | succ bound ih =>
      cases queue with
      | nil => rw [Walk.finish?_nil, reachFrom_nil]
      | cons first queue => rw [Walk.finish?_cons, ih spreading.next, reachFrom_cons]

/--
What a walk from a node finds besides the node itself, if it comes to an end after no more turns
than one for the node and one for every edge.
-/
def walkedDependents? (graph : Graph) (root : String) : Option IdSet :=
  (Walk.finish? graph (graph.edges.length + 1) ⟨[root], ∅⟩).map (·.erase root)

/--
In every graph and from every node the walk comes to an end and finds the dependents of the node.
They are the nodes other than the root that a path of one or more edges leads to from it. In the
graph of a plan they are the other steps that depend on the root, directly or through others.
-/
theorem walks_to_all_dependents (graph : Graph) (root : String) :
    graph.walkedDependents? root = some (graph.dependents root) ∧
    (∀ id, id ∈ graph.dependents root ↔ TransGen graph.Leads root id ∧ id ≠ root) ∧
    ∀ plan : Plan, ∀ id, id ∈ plan.graph.dependents root ↔
      ∃ step ∈ plan.steps, step.id = id ∧ id ≠ root ∧ Step.DependsOn plan.steps id root := by
  refine ⟨?ends, fun id => mem_dependents, fun plan id => ?ofPlan⟩
  case ends =>
    rw [walkedDependents?, (Spreading.start graph root).finish?_eq, Option.map_some, dependents]
  case ofPlan =>
    rw [mem_dependents, Plan.graph, transGen_leads_ofSteps]
    constructor
    · rintro ⟨depends, apart⟩
      obtain ⟨step, member, same⟩ := depends.exists_step
      exact ⟨step, member, same, apart, depends⟩
    · rintro ⟨_, _, _, apart, depends⟩
      exact ⟨depends, apart⟩

/-- The clay lies on a cycle, the oven is not listed, and one edge is repeated. -/
example :
    (dependents
      { nodes := ["clay", "glaze"]
        edges :=
          [⟨"clay", "oven"⟩, ⟨"oven", "glaze"⟩, ⟨"oven", "glaze"⟩, ⟨"glaze", "clay"⟩,
            ⟨"sand", "glaze"⟩] }
      "clay").ids = ["glaze", "oven"] := by
  decide +kernel

end Graph

end PlanRunner
