import PlanRunner.Plan.Basic
import PlanRunner.Proofs.Graph.Paths
import PlanRunner.Proofs.Plan.Lookup

/-!
# What makes a plan valid

The check of a plan lets through just the plans that have a step, whose identifiers are distinct and
not blank, and whose steps depend on other steps of the plan only.
-/

namespace PlanRunner

namespace Graph

variable {graph : Graph}

theorem checkNodes_eq_ok_iff {before nodes : List String} :
    checkNodes before nodes = .ok () ↔
      (∀ id ∈ nodes, Text.isBlankText id = false ∧ id ∉ before) ∧ nodes.Nodup := by
  induction nodes generalizing before with
  | nil => simp [checkNodes]
  | cons id rest ih =>
      simp only [checkNodes, List.mem_cons, forall_eq_or_imp, List.nodup_cons]
      split
      · simp_all
      · split
        · simp_all
        · rw [ih]
          simp only [List.mem_cons, not_or]
          grind

theorem checkEdges_eq_ok_iff {nodes : List String} {edges : List Edge} :
    checkEdges nodes edges = .ok () ↔
      ∀ edge ∈ edges, edge.source ≠ edge.target ∧ edge.source ∈ nodes := by
  induction edges with
  | nil => simp [checkEdges]
  | cons edge rest ih =>
      simp only [checkEdges, List.mem_cons, forall_eq_or_imp]
      split
      · simp_all
      · split <;> simp_all

/-- A graph is valid if its nodes are named and distinct and its edges join different nodes. -/
theorem validate_eq_ok_iff :
    graph.validate = .ok () ↔
      (∀ id ∈ graph.nodes, Text.isBlankText id = false) ∧ graph.nodes.Nodup ∧
        ∀ edge ∈ graph.edges, edge.source ≠ edge.target ∧ edge.source ∈ graph.nodes := by
  have nodes := @checkNodes_eq_ok_iff [] graph.nodes
  simp only [List.not_mem_nil, not_false_eq_true, and_true] at nodes
  rw [← checkEdges_eq_ok_iff, ← and_assoc, ← nodes]
  unfold validate
  cases checkNodes [] graph.nodes with
  | error error => simp [bind, Except.bind]
  | ok _ => simp [bind, Except.bind]

end Graph

namespace Plan

variable {plan : Plan}

/-- What the check of a plan asks for. -/
structure Valid (plan : Plan) : Prop where
  nonempty : plan.steps ≠ []
  named : ∀ step ∈ plan.steps, Text.isBlankText step.id = false
  distinct : Step.Distinct plan.steps
  /-- No step depends on itself. -/
  apart : ∀ step ∈ plan.steps, step.id ∉ step.dependencies
  /-- Every step depends on steps of the plan only. -/
  known : ∀ step ∈ plan.steps, ∀ id ∈ step.dependencies, ∃ dependency ∈ plan.steps,
    dependency.id = id

/-- The check of a plan lets the valid plans through and no others. -/
theorem validate_eq_ok : plan.validate = .ok () ↔ plan.Valid := by
  have edges : ∀ edge, edge ∈ plan.graph.edges ↔ plan.graph.Leads edge.source edge.target :=
    fun _ => Iff.rfl
  have leads : ∀ source target, plan.graph.Leads source target ↔
      ∃ step ∈ plan.steps, step.id = target ∧ source ∈ step.dependencies :=
    fun _ _ => Graph.leads_ofSteps
  have nodes : plan.graph.nodes = plan.steps.map (·.id) := rfl
  unfold validate
  split
  · rename_i isEmpty
    refine iff_of_false (by simp) fun valid => valid.nonempty (List.isEmpty_iff.1 isEmpty)
  · rename_i hasSteps
    rw [Graph.validate_eq_ok_iff]
    simp only [edges, leads, nodes, List.mem_map, forall_exists_index, and_imp,
      forall_apply_eq_imp_iff₂]
    constructor
    · rintro ⟨named, distinct, sound⟩
      refine ⟨fun isNil => hasSteps (by simp [isNil]), named, distinct, ?_, ?_⟩
      · intro step member depends
        exact (sound ⟨step.id, step.id⟩ step member rfl depends).1 rfl
      · intro step member id depends
        exact (sound ⟨id, step.id⟩ step member rfl depends).2
    · intro valid
      refine ⟨valid.named, valid.distinct, ?_⟩
      rintro ⟨source, target⟩ step member rfl depends
      change source ∈ step.dependencies at depends
      refine ⟨fun same : source = step.id => ?_, valid.known step member source depends⟩
      subst same
      exact valid.apart step member depends

/-- Whether a plan is valid does not depend on the order of its steps. -/
theorem Valid.of_perm {second : Plan} (valid : plan.Valid)
    (permuted : plan.steps.Perm second.steps) : second.Valid := by
  refine ⟨?_, ?_, (permuted.map _).nodup_iff.1 valid.distinct, ?_, ?_⟩
  · intro isNil
    rw [isNil] at permuted
    exact valid.nonempty permuted.eq_nil
  · exact fun step member => valid.named step (permuted.mem_iff.2 member)
  · exact fun step member => valid.apart step (permuted.mem_iff.2 member)
  · intro step member id depends
    obtain ⟨dependency, dependencyMember, named⟩ :=
      valid.known step (permuted.mem_iff.2 member) id depends
    exact ⟨dependency, permuted.mem_iff.1 dependencyMember, named⟩

end Plan

end PlanRunner
