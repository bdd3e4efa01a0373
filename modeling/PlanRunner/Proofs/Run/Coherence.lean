import PlanRunner.Proofs.Plan.Validity
import PlanRunner.Proofs.Run.Progress

/-!
# What holds all along a run

Between two batches of a run no step is in flight. The steps that have had their turns are as their
turns have left them, each step has had one turn at most, all that a step with a turn depends on is
done, and the other steps are as they were at the start.
-/

namespace PlanRunner

/-! ## What never changes -/

section Design

variable {steps others : List Step} {step : Step} {plan other : Plan}

/-- Where the designs agree, every step has a counterpart. -/
theorem Step.exists_of_design (same : steps.map design = others.map design)
    (member : step ∈ steps) : ∃ other ∈ others, other.design = step.design := by
  have designed : step.design ∈ others.map design := same ▸ List.mem_map_of_mem member
  exact List.mem_map.1 designed

/-- The graph of a list of steps follows from their designs. -/
theorem Graph.ofSteps_design (steps : List Step) :
    Graph.ofSteps (steps.map Step.design) = Graph.ofSteps steps := by
  simp [Graph.ofSteps, List.flatMap_map, Step.design]

theorem Plan.graph_eq_of_design
    (same : plan.steps.map Step.design = other.steps.map Step.design) :
    plan.graph = other.graph := by
  rw [graph, graph, ← Graph.ofSteps_design, same, Graph.ofSteps_design]

/-- Whether a plan is valid follows from the designs of its steps. -/
theorem Plan.Valid.of_design (valid : plan.Valid)
    (same : plan.steps.map Step.design = other.steps.map Step.design) : other.Valid := by
  have checked := Plan.validate_eq_ok.2 valid
  refine Plan.validate_eq_ok.1 ?_
  have lengths := congrArg List.length same
  simp only [List.length_map] at lengths
  unfold Plan.validate at checked ⊢
  rw [← Plan.graph_eq_of_design same]
  rw [if_neg (by simpa using valid.nonempty)] at checked
  rw [if_neg, checked]
  intro isEmpty
  rw [List.isEmpty_iff] at isEmpty
  rw [isEmpty, List.length_nil, List.length_eq_zero_iff] at lengths
  exact valid.nonempty lengths

end Design

namespace Progress

open Relation

variable {settings : Settings} {environment : Environment} {start progress before after : Progress}
  {step : Step} {turn : Turn} {id : String}

/-- The turns of a run so far. -/
def taken (progress : Progress) : List Turn :=
  progress.batches.flatMap (·.turns)

@[simp] theorem taken_next :
    (progress.next settings environment).taken =
      progress.taken ++ (progress.nextBatch settings environment).turns := by
  simp [taken]

/-- What is known about a run between two batches, given where it started. -/
structure Coherent (start progress : Progress) : Prop where
  distinct : Step.Distinct progress.plan.steps
  /-- No step is in flight. -/
  idle : ∀ step ∈ progress.plan.steps, step.status ≠ .running
  design : progress.plan.steps.map Step.design = start.plan.steps.map Step.design
  frame : progress.plan = { start.plan with steps := progress.plan.steps }
  /-- Steps without a turn are as they were. -/
  untouched : ∀ step ∈ progress.plan.steps, step.id ∉ progress.taken.map (·.step.id) →
    step ∈ start.plan.steps
  /-- Steps with a turn are as the turn has left them. -/
  marked : ∀ turn ∈ progress.taken, turn.marked ∈ progress.plan.steps
  settled : ∀ turn ∈ progress.taken, turn.Settled
  /-- Only steps that were pending have had turns. -/
  origin : ∀ turn ∈ progress.taken, ∃ step ∈ start.plan.steps,
    step.status = .pending ∧ turn.step = { step with status := .running }
  once : (progress.taken.map (·.step.id)).Nodup
  /-- What a step with a turn depends on is done. -/
  justified : ∀ turn ∈ progress.taken, ∀ id ∈ turn.step.dependencies,
    ∃ dependency ∈ progress.plan.steps,
      dependency.id = id ∧ dependency.satisfiesDependents = true

namespace Coherent

/-- A step that has had its turn is as the turn has left it. -/
theorem marked_eq (coherent : Coherent start progress) (turnMember : turn ∈ progress.taken)
    (member : step ∈ progress.plan.steps) (same : turn.step.id = step.id) : turn.marked = step :=
  coherent.distinct.eq_of_id_eq (coherent.marked turn turnMember) member (by simpa using same)

/-- A step that is still pending has had no turn. -/
theorem not_taken_of_pending (coherent : Coherent start progress)
    (member : step ∈ progress.plan.steps) (pending : step.status = .pending) :
    step.id ∉ progress.taken.map (·.step.id) := by
  intro isTaken
  obtain ⟨turn, turnMember, same⟩ := List.mem_map.1 isTaken
  have equal := coherent.marked_eq turnMember member same
  exact not_pending_marked (coherent.settled turn turnMember) (equal ▸ pending)

/-- A step that is still pending is as it was. -/
theorem mem_start_of_pending (coherent : Coherent start progress)
    (member : step ∈ progress.plan.steps) (pending : step.status = .pending) :
    step ∈ start.plan.steps :=
  coherent.untouched step member (coherent.not_taken_of_pending member pending)

/-- All that a ready step depends on is done. -/
theorem dependency_of_ready (coherent : Coherent start progress)
    (ready : Step.isReady progress.plan.steps step) (depends : id ∈ step.dependencies) :
    ∃ dependency ∈ progress.plan.steps,
      dependency.id = id ∧ dependency.satisfiesDependents = true :=
  Step.dependency_of_isReady coherent.distinct ready depends

/-- Where no step is ready, a step has had its turn if it was pending and all it needs is done. -/
theorem taken_of_done (coherent : Coherent start progress)
    (distinct : Step.Distinct start.plan.steps)
    (drained : Step.ready progress.plan.steps = []) (member : step ∈ start.plan.steps)
    (pending : step.status = .pending)
    (done : ∀ id ∈ step.dependencies, ∃ dependency ∈ progress.plan.steps,
      dependency.id = id ∧ dependency.satisfiesDependents = true) :
    step.id ∈ progress.taken.map (·.step.id) := by
  by_contra untaken
  obtain ⟨late, lateMember, design⟩ := Step.exists_of_design coherent.design.symm member
  have named := Step.id_eq_of_design design
  have lateStart := coherent.untouched late lateMember (named ▸ untaken)
  obtain rfl : late = step := distinct.eq_of_id_eq lateStart member named
  -- The step is as it was, so it would be ready.
  refine Step.ready_eq_nil_iff.1 drained late lateMember ?_
  refine Step.isReady_iff.2 ⟨pending, fun id depends => ?_⟩
  obtain ⟨dependency, dependencyMember, rfl, satisfies⟩ := done id depends
  have found := (Step.find?_eq_some_iff coherent.distinct).2 ⟨dependencyMember, rfl⟩
  exact ⟨dependency, found, satisfies⟩

/-- A run is coherent before its first batch. -/
theorem refl (distinct : Step.Distinct start.plan.steps)
    (idle : ∀ step ∈ start.plan.steps, step.status ≠ .running) (fresh : start.batches = []) :
    Coherent start start := by
  have nothing : start.taken = [] := by simp [taken, fresh]
  refine ⟨distinct, idle, rfl, rfl, fun step member _ => member, ?_, ?_, ?_, ?_, ?_⟩ <;>
    simp [nothing]

theorem nodup_batch (coherent : Coherent start progress) {batch : Batch}
    (member : batch ∈ progress.batches) : (batch.turns.map (·.step.id)).Nodup := by
  refine coherent.once.sublist (List.Sublist.map _ ?_)
  exact List.sublist_flatten_of_mem (List.mem_map_of_mem member)

/-- Every turn of the next batch belongs to a ready step. -/
theorem of_mem_nextBatch (coherent : Coherent start progress)
    (member : turn ∈ (progress.nextBatch settings environment).turns) :
    ∃ step ∈ progress.plan.steps, Step.isReady progress.plan.steps step = true ∧
      step.id ∈ progress.chosen settings ∧ turn.step = { step with status := .running } := by
  obtain ⟨step, stepMember, chosen, rfl⟩ := (mem_nextBatch_iff coherent.distinct).1 member
  have ready := isReady_of_chosen coherent.distinct stepMember chosen
  exact ⟨step, stepMember, ready, chosen, Turn.step_take⟩

theorem once_next (coherent : Coherent start progress) :
    ((progress.taken ++ (progress.nextBatch settings environment).turns).map
      (·.step.id)).Nodup := by
  rw [List.map_append, ids_nextBatch environment coherent.distinct]
  refine List.nodup_append.2 ⟨coherent.once, nodup_chosen coherent.distinct, ?_⟩
  rintro id isTaken other chosen rfl
  obtain ⟨step, member, rfl, ready⟩ := exists_of_mem_chosen chosen
  exact coherent.not_taken_of_pending member (Step.isReady_iff.1 ready).1 isTaken

/-- A batch keeps what is known. -/
theorem next (coherent : Coherent start before)
    (advances : Advances settings environment before after) : Coherent start after := by
  obtain ⟨-, -, settled, rfl⟩ := advances
  have distinct := coherent.distinct
  -- What is done is not pending, so the batch leaves it alone.
  have persists : ∀ id, (∃ dependency ∈ before.plan.steps,
      dependency.id = id ∧ dependency.satisfiesDependents = true) →
      ∃ dependency ∈ (before.next settings environment).plan.steps,
        dependency.id = id ∧ dependency.satisfiesDependents = true := by
    rintro id ⟨dependency, member, named, satisfies⟩
    have begun := Step.not_pending_of_satisfiesDependents satisfies
    exact ⟨dependency, mem_next_of_not_pending distinct member begun, named, satisfies⟩
  refine ⟨distinct_next distinct, ?idle, ?design, ?frame, ?untouched, ?marked, ?settled, ?origin,
    by simpa using coherent.once_next, ?justified⟩
  case idle =>
    intro step member
    obtain ⟨old, oldMember, rfl⟩ := (mem_next_iff distinct).1 member
    unfold stepAfter
    split
    · rename_i chosen
      have turnMember := take_mem_nextBatch environment distinct oldMember chosen
      rcases Turn.status_marked (settled _ turnMember) with succeeded | failed
      · simp [succeeded]
      · simp [failed]
    · exact coherent.idle old oldMember
  case design =>
    rw [plan_next distinct, List.map_map, ← coherent.design]
    exact List.map_congr_left fun step _ => design_stepAfter
  case frame =>
    rw [plan_next distinct, coherent.frame]
  case untouched =>
    intro step member fresh
    obtain ⟨old, oldMember, rfl⟩ := (mem_next_iff distinct).1 member
    rw [taken_next, List.map_append, ids_nextBatch environment distinct, List.mem_append, not_or,
      id_stepAfter] at fresh
    rw [stepAfter, if_neg fresh.2]
    exact coherent.untouched old oldMember fresh.1
  case marked =>
    intro turn member
    rcases List.mem_append.1 (taken_next ▸ member) with earlier | new
    · refine mem_next_of_not_pending distinct (coherent.marked turn earlier) ?_
      exact not_pending_marked (coherent.settled turn earlier)
    · exact marked_mem_next distinct new
  case settled =>
    intro turn member
    rcases List.mem_append.1 (taken_next ▸ member) with earlier | new
    · exact coherent.settled turn earlier
    · exact settled turn new
  case origin =>
    intro turn member
    rcases List.mem_append.1 (taken_next ▸ member) with earlier | new
    · exact coherent.origin turn earlier
    · obtain ⟨step, stepMember, ready, -, started⟩ := coherent.of_mem_nextBatch new
      have pending := (Step.isReady_iff.1 ready).1
      exact ⟨step, coherent.mem_start_of_pending stepMember pending, pending, started⟩
  case justified =>
    intro turn member id depends
    rcases List.mem_append.1 (taken_next ▸ member) with earlier | new
    · exact persists id (coherent.justified turn earlier id depends)
    · obtain ⟨step, -, ready, -, started⟩ := coherent.of_mem_nextBatch new
      rw [started] at depends
      exact persists id (coherent.dependency_of_ready ready depends)

/-- What is known holds all along a run. -/
theorem of_reaches (coherent : Coherent start before)
    (reaches : Reaches settings environment before after) : Coherent start after := by
  induction reaches with
  | refl => exact coherent
  | tail _ advances ih => exact ih.next advances

/-- A step that is no longer pending stays as it is. -/
theorem mem_of_reaches (coherent : Coherent start before)
    (reaches : Reaches settings environment before after) (member : step ∈ before.plan.steps)
    (begun : step.status ≠ .pending) : step ∈ after.plan.steps := by
  induction reaches with
  | refl => exact member
  | tail reaches advances ih =>
      obtain ⟨-, -, -, rfl⟩ := advances
      exact mem_next_of_not_pending (coherent.of_reaches reaches).distinct ih begun

end Coherent

/-- At every turn of a run the run had come to the point at which the turn was in the next batch. -/
theorem exists_of_mem_taken (fresh : start.batches = [])
    (reaches : Reaches settings environment start progress) (member : turn ∈ progress.taken) :
    ∃ middle, Reaches settings environment start middle ∧
      turn ∈ (middle.nextBatch settings environment).turns ∧
        Reaches settings environment middle progress := by
  obtain ⟨batch, batchMember, inBatch⟩ := List.mem_flatMap.1 member
  obtain ⟨earlier, later, split⟩ := List.append_of_mem batchMember
  obtain ⟨middle, toMiddle, -, rfl, onwards⟩ := exists_of_batches fresh reaches split
  exact ⟨middle, toMiddle, inBatch, onwards⟩

end Progress

end PlanRunner
