import PlanRunner.Proofs.Graph.Cycles
import PlanRunner.Proofs.Graph.Dependents
import PlanRunner.Proofs.Graph.Layers
import PlanRunner.Proofs.Plan.Readiness
import PlanRunner.Proofs.Plan.Validity

/-!
# Unreachable steps before a run

Of a valid plan that has not started, the steps that can never become ready are those behind a
cycle. Four algorithms tell which they are, each in its own way: the passes that look for live
steps, the layers, the search for a cycle, and the walk along the edges from a step that is on one.
-/

namespace PlanRunner

open Relation

variable {plan : Plan} {step : Step} {id : String}

namespace Plan

/-- No step of a plan has been started. -/
def Unstarted (plan : Plan) : Prop :=
  ∀ step ∈ plan.steps, step.status = .pending

/-- An edge leads to a step from what it depends on. -/
theorem Valid.leads_iff (valid : plan.Valid) (member : step ∈ plan.steps) {source : String} :
    plan.graph.Leads source step.id ↔ source ∈ step.dependencies := by
  rw [graph, Graph.leads_ofSteps]
  constructor
  · rintro ⟨other, otherMember, same, depends⟩
    rwa [valid.distinct.eq_of_id_eq otherMember member same] at depends
  · exact fun depends => ⟨step, member, rfl, depends⟩

/-- In a plan that has not started, what settles waits for nothing in the end. -/
theorem Unstarted.acc_of_settles (unstarted : plan.Unstarted) (valid : plan.Valid)
    (settles : Step.Settles plan.steps id) : Acc plan.graph.Leads id := by
  induction settles with
  | done found satisfies =>
      have pending := unstarted _ (Step.mem_of_find?_eq_some found).1
      exact absurd pending (Step.not_pending_of_satisfiesDependents satisfies)
  | inFlight found running =>
      have pending := unstarted _ (Step.mem_of_find?_eq_some found).1
      rw [running] at pending
      contradiction
  | waiting found _ _ ih =>
      obtain ⟨member, rfl⟩ := Step.mem_of_find?_eq_some found
      exact ⟨_, fun source leads => ih source ((valid.leads_iff member).1 leads)⟩

/-- What does not settle depends on something else that does not settle. -/
theorem Unstarted.behindCycle_of_not_settles (unstarted : plan.Unstarted) (valid : plan.Valid)
    (member : step ∈ plan.steps) (stuck : ¬Step.Settles plan.steps step.id) :
    plan.graph.BehindCycle step.id := by
  have listed : ∀ id, (∃ step ∈ plan.steps, step.id = id ∧ ¬Step.Settles plan.steps id) →
      id ∈ plan.graph.nodes := by
    rintro _ ⟨step, member, rfl, -⟩
    exact List.mem_map_of_mem member
  refine Graph.behindCycle_of_waiting listed ?waits ⟨step, member, rfl, stuck⟩
  case waits =>
    rintro _ ⟨step, member, rfl, stuck⟩
    rw [Step.settles_iff_of_pending valid.distinct member (unstarted step member)] at stuck
    push Not at stuck
    obtain ⟨source, depends, sourceStuck⟩ := stuck
    obtain ⟨other, otherMember, rfl⟩ := valid.known step member source depends
    exact ⟨other.id, ⟨other, otherMember, rfl, sourceStuck⟩, (valid.leads_iff member).2 depends⟩

/-- In a plan that has not started, the steps that settle are those that are behind no cycle. -/
theorem Unstarted.settles_iff (unstarted : plan.Unstarted) (valid : plan.Valid)
    (member : step ∈ plan.steps) :
    Step.Settles plan.steps step.id ↔ ¬plan.graph.BehindCycle step.id := by
  constructor
  · exact fun settles => Graph.not_behindCycle_of_acc (unstarted.acc_of_settles valid settles)
  · intro clear
    by_contra stuck
    exact clear (unstarted.behindCycle_of_not_settles valid member stuck)

/-- Whatever an edge leads to or from is a step of the plan. -/
theorem Valid.mem_nodes_of_leads (valid : plan.Valid) {source target : String}
    (leads : plan.graph.Leads source target) :
    source ∈ plan.graph.nodes ∧ target ∈ plan.graph.nodes := by
  obtain ⟨step, member, rfl, depends⟩ := Graph.leads_ofSteps.1 leads
  obtain ⟨other, otherMember, rfl⟩ := valid.known step member source depends
  exact ⟨List.mem_map_of_mem otherMember, List.mem_map_of_mem member⟩

/-- What is behind a cycle is a step of the plan. -/
theorem Valid.mem_nodes_of_behindCycle (valid : plan.Valid) (behind : plan.graph.BehindCycle id) :
    id ∈ plan.graph.nodes := by
  obtain ⟨other, cycle, path⟩ := behind
  obtain ⟨source, -, leads⟩ := TransGen.tail'_iff.1 (cycle.trans_left path)
  exact (valid.mem_nodes_of_leads leads).2

/-- In a plan that has not started, the unreachable steps are those behind a cycle. -/
theorem Unstarted.mem_unreachable_iff (unstarted : plan.Unstarted) (valid : plan.Valid) :
    id ∈ Step.unreachable plan.steps ↔ plan.graph.BehindCycle id := by
  rw [Step.mem_unreachable_iff valid.distinct]
  constructor
  · rintro ⟨step, member, rfl, -, stuck⟩
    exact unstarted.behindCycle_of_not_settles valid member stuck
  · intro behind
    obtain ⟨step, member, rfl⟩ := List.mem_map.1 (valid.mem_nodes_of_behindCycle behind)
    exact ⟨step, member, rfl, unstarted step member,
      fun settles => (unstarted.settles_iff valid member).1 settles behind⟩

/-- In a plan that has not started, the live steps are those in the layers. -/
theorem Unstarted.mem_live_iff (unstarted : plan.Unstarted) (valid : plan.Valid)
    (member : step ∈ plan.steps) :
    step.id ∈ Step.live plan.steps ↔ step.id ∈ plan.graph.layers.flatten := by
  have nodes : plan.graph.nodes.Nodup := valid.distinct
  have edges : plan.graph.edges.Nodup := Graph.nodup_edges_ofSteps valid.distinct
  have joined : ∀ edge ∈ plan.graph.edges, edge.source ∈ plan.graph.nodes :=
    fun _ leads => (valid.mem_nodes_of_leads leads).1
  have isListed : step.id ∈ plan.graph.nodes := List.mem_map_of_mem member
  rw [Step.mem_live_iff valid.distinct member (unstarted step member),
    Graph.mem_flatten_layers_iff nodes joined, unstarted.settles_iff valid member]
  have single := Graph.not_behindDoubled_of_nodup edges step.id
  exact ⟨fun clear => ⟨isListed, clear, single⟩, fun isPlaced => isPlaced.2.1⟩

/-- In a plan that has not started, the unreachable steps are those in no layer. -/
theorem Unstarted.unreachable_eq (unstarted : plan.Unstarted) (valid : plan.Valid) :
    Step.unreachable plan.steps =
      (plan.steps.map (·.id)).filter (· ∉ plan.graph.layers.flatten) := by
  rw [Step.unreachable, List.filter_map]
  refine congrArg _ (List.filter_congr fun step member => ?_)
  rw [Bool.eq_iff_iff]
  simp [unstarted step member, unstarted.mem_live_iff valid member, -List.mem_flatten]

/-- In a plan that has not started, a cycle is found exactly if a step is unreachable. -/
theorem Unstarted.findCycle_eq_none_iff (unstarted : plan.Unstarted) (valid : plan.Valid) :
    plan.graph.findCycle = none ↔ Step.unreachable plan.steps = [] := by
  rw [Graph.findCycle_eq_none_iff, List.eq_nil_iff_forall_not_mem]
  constructor
  · intro clear id isUnreachable
    obtain ⟨other, cycle, -⟩ := (unstarted.mem_unreachable_iff valid).1 isUnreachable
    have isListed := valid.mem_nodes_of_behindCycle ⟨other, cycle, .refl⟩
    exact clear other (.of_mem isListed) cycle
  · intro nothing id _ cycle
    exact nothing id ((unstarted.mem_unreachable_iff valid).2 ⟨id, cycle, .refl⟩)

end Plan

/--
In a valid plan that has not started four algorithms agree. The unreachable steps are those in no
layer, in plan order. They are the steps on a cycle and the dependents of such steps. A cycle is
found exactly if there are any of them, and it lies among them.
-/
theorem algorithms_agree_on_cycles (valid : plan.validate = .ok ()) (unstarted : plan.Unstarted) :
    Step.unreachable plan.steps =
      (plan.steps.map (·.id)).filter (· ∉ plan.graph.layers.flatten) ∧
    (∀ id, id ∈ Step.unreachable plan.steps ↔
      ∃ other, TransGen plan.graph.Leads other other ∧
        (id = other ∨ id ∈ plan.graph.dependents other)) ∧
    (plan.graph.findCycle = none ↔ Step.unreachable plan.steps = []) ∧
    ∀ path, plan.graph.findCycle = some path → ∀ id ∈ path, id ∈ Step.unreachable plan.steps := by
  rw [Plan.validate_eq_ok] at valid
  refine ⟨unstarted.unreachable_eq valid, fun id => ?_, unstarted.findCycle_eq_none_iff valid,
    fun path isFound id onPath => ?_⟩
  · rw [unstarted.mem_unreachable_iff valid, Graph.behindCycle_iff]
  · have cycle := (Graph.closedPath_of_findCycle isFound).1.transGen_self onPath
    exact (unstarted.mem_unreachable_iff valid).2 ⟨id, cycle, .refl⟩

/-- A plan in which three steps wait for one another, and one more waits for one of them. -/
def circularPlan : Plan :=
  { Plan.blank with
    id := "circular"
    steps :=
      [(Step.new "print" "press" .null).dependingOn ["layout", "proof"],
        Step.new "order" "shop" .null,
        (Step.new "layout" "typeset" .null).dependingOn ["order", "edit"],
        (Step.new "edit" "rewrite" .null).dependingOn ["proof"],
        (Step.new "proof" "read" .null).dependingOn ["layout"]] }

/-- Only the order can be placed, and the rest is on the cycle that is found or depends on it. -/
theorem algorithms_agree_on_cycles_circular :
    circularPlan.validate = .ok () ∧ circularPlan.Unstarted ∧
    circularPlan.graph.layers = [["order"]] ∧
    Step.unreachable circularPlan.steps = ["print", "layout", "edit", "proof"] ∧
    circularPlan.graph.findCycle = some ["layout", "proof", "edit", "layout"] ∧
    circularPlan.graph.findCycle ≠ none ∧
    (∀ id ∈ ["layout", "proof", "edit", "layout"], id ∈ Step.unreachable circularPlan.steps) ∧
    ∃ other, TransGen circularPlan.graph.Leads other other ∧
      ("print" = other ∨ "print" ∈ circularPlan.graph.dependents other) := by
  have valid : circularPlan.validate = .ok () := rfl
  have unstarted : circularPlan.Unstarted := by
    unfold Plan.Unstarted
    decide
  have layers : circularPlan.graph.layers = [["order"]] := by decide +kernel
  have isFound : circularPlan.graph.findCycle = some ["layout", "proof", "edit", "layout"] := by
    cbv
  obtain ⟨ordered, members, found, within⟩ := algorithms_agree_on_cycles valid unstarted
  have isUnreachable : Step.unreachable circularPlan.steps =
      ["print", "layout", "edit", "proof"] := by
    rw [ordered, layers]
    decide
  refine ⟨valid, unstarted, layers, isUnreachable, isFound, ?_, within _ isFound, ?_⟩
  · rw [Ne, found, isUnreachable]
    simp
  · exact (members "print").1 (isUnreachable ▸ List.mem_cons_self)

end PlanRunner
