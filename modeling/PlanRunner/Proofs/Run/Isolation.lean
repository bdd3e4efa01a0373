import PlanRunner.Proofs.Run.Outcome
import PlanRunner.Run.Rehearsal

/-!
# Failures are isolated

In a run that is not cancelled a failure keeps just those steps from having their turns that cannot
do without the failed step. A step has its turn exactly if it is not behind a cycle and no step that
it depends on, at any distance, failed without being optional. All other steps are skipped.
-/

namespace PlanRunner

open Relation Progress

variable {settings : Settings} {environment : Environment} {plan : Plan} {progress last : Progress}
  {report : Report} {step : Step} {turn : Turn} {id : String}

/-- A step that is not optional failed, and a path leads from it. -/
def Plan.BehindFailure (plan : Plan) (id : String) : Prop :=
  ∃ step ∈ plan.steps, step.isBlockingFailure = true ∧ TransGen plan.graph.Leads step.id id

/-- No step of a plan has been over before a run. -/
def Plan.Fresh (plan : Plan) : Prop :=
  ∀ step ∈ plan.steps, step.status = .pending ∨ step.status = .running

theorem Plan.Fresh.pending_start (fresh : plan.Fresh) (member : step ∈ (start plan).plan.steps) :
    step.status = .pending := by
  obtain ⟨old, oldMember, rfl⟩ := List.mem_map.1 member
  rcases fresh old oldMember with pending | running
  · simp [pending]
  · simp [running]

/-! ## All along the run -/

namespace Progress.Coherent

/-- A step that is no longer pending has had its turn, if none was over before the run. -/
theorem taken_of_not_pending (coherent : Coherent (start plan) progress) (fresh : plan.Fresh)
    (member : step ∈ progress.plan.steps) (begun : step.status ≠ .pending) :
    ∃ turn ∈ progress.taken, turn.step.id = step.id := by
  by_contra fewer
  have untaken : step.id ∉ progress.taken.map (·.step.id) :=
    fun isTaken => fewer (List.mem_map.1 isTaken)
  exact begun (fresh.pending_start (coherent.untouched step member untaken))

/-- A step that had its turn and is not done failed without being optional. -/
theorem isBlockingFailure_of_taken (coherent : Coherent (start plan) progress)
    (turnMember : turn ∈ progress.taken) (member : step ∈ progress.plan.steps)
    (same : turn.step.id = step.id) (undone : ¬step.satisfiesDependents = true) :
    step.isBlockingFailure = true := by
  have marked := coherent.marked_eq turnMember member same
  rcases Turn.status_marked (coherent.settled turn turnMember) with succeeded | failed
  · rw [marked] at succeeded
    exact absurd (Step.satisfiesDependents_iff.2 (.inl succeeded)) undone
  · rw [marked] at failed
    simp only [Step.satisfiesDependents, failed, Bool.not_eq_true] at undone
    simp [Step.isBlockingFailure, failed, undone]

/-- All that leads to a step with a turn is done, and has had its turn as well. -/
theorem done_of_leads (coherent : Coherent (start plan) progress) (fresh : plan.Fresh)
    (member : turn ∈ progress.taken) (leads : plan.graph.Leads id turn.step.id) :
    ∃ dependency ∈ progress.plan.steps, dependency.id = id ∧
      dependency.satisfiesDependents = true ∧
        ∃ earlier ∈ progress.taken, earlier.step.id = id := by
  obtain ⟨dependency, dependencyMember, rfl, satisfies⟩ :=
    coherent.dependency_of_taken (List.mem_map_of_mem member) leads
  refine ⟨dependency, dependencyMember, rfl, satisfies, ?_⟩
  exact coherent.taken_of_not_pending fresh dependencyMember
    (Step.not_pending_of_satisfiesDependents satisfies)

/-- All that a path leads from to a step with a turn is done. -/
theorem done_of_path (coherent : Coherent (start plan) progress) (fresh : plan.Fresh)
    {target : String} (path : TransGen plan.graph.Leads id target)
    (isTaken : ∃ turn ∈ progress.taken, turn.step.id = target) :
    ∃ dependency ∈ progress.plan.steps,
      dependency.id = id ∧ dependency.satisfiesDependents = true := by
  induction path with
  | single leads =>
      obtain ⟨turn, member, rfl⟩ := isTaken
      obtain ⟨dependency, dependencyMember, named, satisfies, -⟩ :=
        coherent.done_of_leads fresh member leads
      exact ⟨dependency, dependencyMember, named, satisfies⟩
  | tail _ leads ih =>
      obtain ⟨turn, member, rfl⟩ := isTaken
      obtain ⟨-, -, -, -, earlier⟩ := coherent.done_of_leads fresh member leads
      exact ih earlier

/-- A batch takes only steps that can be reached from below in finitely many steps. -/
theorem acc_next (coherent : Coherent (start plan) progress) (fresh : plan.Fresh)
    (earlier : ∀ turn ∈ progress.taken, Acc plan.graph.Leads turn.step.id)
    (member : turn ∈ (progress.nextBatch settings environment).turns) :
    Acc plan.graph.Leads turn.step.id := by
  have chosen := mem_chosen_of_mem_nextBatch coherent.distinct member
  refine .intro _ fun source leads => ?_
  obtain ⟨dependency, dependencyMember, rfl, satisfies⟩ :=
    coherent.dependency_of_chosen chosen leads
  obtain ⟨before, beforeMember, same⟩ := coherent.taken_of_not_pending fresh dependencyMember
    (Step.not_pending_of_satisfiesDependents satisfies)
  exact same ▸ earlier before beforeMember

end Progress.Coherent

/-- A run takes only steps that can be reached from below in finitely many steps. -/
theorem acc_of_reaches (valid : plan.Valid) (fresh : plan.Fresh)
    (reaches : Reaches settings environment (start plan) progress) :
    ∀ turn ∈ progress.taken, Acc plan.graph.Leads turn.step.id := by
  induction reaches with
  | refl => simp [taken, start]
  | tail reaches advances ih =>
      obtain ⟨-, -, -, rfl⟩ := advances
      intro turn member
      rcases List.mem_append.1 (taken_next ▸ member) with earlier | new
      · exact ih turn earlier
      · exact (valid.coherent_start.of_reaches reaches).acc_next fresh ih new

/-! ## At the end of the run -/

/-- A step that is no longer pending stays as it is when the others are skipped. -/
theorem Plan.mem_skipUnreachable_of_begun (distinct : Step.Distinct plan.steps)
    (member : step ∈ plan.steps) (begun : step.status ≠ .pending) :
    step ∈ plan.skipUnreachable.steps := by
  refine List.mem_map.2 ⟨step, member, if_neg fun unreachable => ?_⟩
  exact begun ((Step.id_mem_unreachable_iff distinct member).1 unreachable).1

namespace Plan.Concludes

/-- A step that did not get its turn is pending after the last batch, and skipped in the end. -/
theorem pending_of_not_taken (concludes : plan.Concludes settings environment report last)
    (fresh : plan.Fresh) (member : step ∈ last.plan.steps)
    (untaken : step.id ∉ last.taken.map (·.step.id)) : step.status = .pending :=
  fresh.pending_start (concludes.coherent.untouched step member untaken)

/-- What is done after the last batch has not failed without being optional in the end. -/
theorem not_isBlockingFailure (concludes : plan.Concludes settings environment report last)
    (uncancelled : report.cancelled = false) {final : Step}
    (finalMember : final ∈ (plan.run settings environment).plan.steps)
    (member : step ∈ last.plan.steps) (same : step.id = final.id)
    (satisfies : step.satisfiesDependents = true) : final.isBlockingFailure = false := by
  rw [concludes.steps_of_drained uncancelled] at finalMember
  obtain ⟨old, oldMember, rfl⟩ := List.mem_map.1 finalMember
  have equal : old = step := by
    refine concludes.coherent.distinct.eq_of_id_eq oldMember member ?_
    rw [same, Step.id_abandoned]
  have begun := Step.not_pending_of_satisfiesDependents satisfies
  rw [equal, Step.abandoned_of_not_pending begun]
  rcases Step.satisfiesDependents_iff.1 satisfies with succeeded | ⟨optional, -⟩
  · simp [Step.isBlockingFailure, succeeded]
  · simp [Step.isBlockingFailure, optional]

/-- A step that had its turn is behind no failure. -/
theorem not_behindFailure_of_taken
    (concludes : plan.Concludes settings environment report last) (fresh : plan.Fresh)
    (uncancelled : report.cancelled = false) (isTaken : ∃ turn ∈ last.taken, turn.step.id = id) :
    ¬(plan.run settings environment).plan.BehindFailure id := by
  rintro ⟨final, finalMember, failure, path⟩
  rw [Plan.graph_eq_of_design concludes.design] at path
  obtain ⟨dependency, member, same, satisfies⟩ :=
    concludes.coherent.done_of_path fresh path isTaken
  have harmless := concludes.not_isBlockingFailure uncancelled finalMember member same satisfies
  rw [failure] at harmless
  contradiction

/-- A step that failed without being optional has failed so in the end. -/
theorem behindFailure_of_leads (concludes : plan.Concludes settings environment report last)
    (member : step ∈ last.plan.steps) (failure : step.isBlockingFailure = true)
    (leads : plan.graph.Leads step.id id) :
    (plan.run settings environment).plan.BehindFailure id := by
  refine ⟨step, ?_, failure, ?_⟩
  · rw [concludes.steps]
    refine Plan.mem_skipUnreachable_of_begun concludes.coherent.distinct member fun pending => ?_
    simp [Step.isBlockingFailure, pending] at failure
  · rw [Plan.graph_eq_of_design concludes.design]
    exact .single leads

/-- A pending step that can never run depends on another step that does not settle. -/
theorem exists_stuck_dependency (concludes : plan.Concludes settings environment report last)
    (member : step ∈ last.plan.steps) (pending : step.status = .pending)
    (stuck : ¬Step.Settles last.plan.steps step.id) :
    ∃ dependency ∈ last.plan.steps, dependency.id ∈ step.dependencies ∧
      ¬Step.Settles last.plan.steps dependency.id := by
  have coherent := concludes.coherent
  have valid : last.plan.Valid :=
    concludes.valid.of_design (coherent.design.trans (design_start plan)).symm
  rw [Step.settles_iff_of_pending coherent.distinct member pending] at stuck
  push Not at stuck
  obtain ⟨id, depends, stuck⟩ := stuck
  obtain ⟨dependency, dependencyMember, rfl⟩ := valid.known step member id depends
  exact ⟨dependency, dependencyMember, depends, stuck⟩

/-- A step that can never run, but is behind no failure, waits for another such step. -/
theorem waits (concludes : plan.Concludes settings environment report last) (fresh : plan.Fresh)
    (member : step ∈ last.plan.steps) (pending : step.status = .pending)
    (stuck : ¬Step.Settles last.plan.steps step.id)
    (clear : ¬(plan.run settings environment).plan.BehindFailure step.id) :
    ∃ other ∈ last.plan.steps, other.status = .pending ∧
      ¬Step.Settles last.plan.steps other.id ∧
      ¬(plan.run settings environment).plan.BehindFailure other.id ∧
        plan.graph.Leads other.id step.id := by
  have coherent := concludes.coherent
  obtain ⟨dependency, dependencyMember, depends, isStuck⟩ :=
    concludes.exists_stuck_dependency member pending stuck
  have leads : plan.graph.Leads dependency.id step.id :=
    coherent.leads_iff.2 ⟨step, member, rfl, depends⟩
  have found := (Step.find?_eq_some_iff coherent.distinct).2 ⟨dependencyMember, rfl⟩
  refine ⟨dependency, dependencyMember, ?_, isStuck, ?_, leads⟩
  · by_contra begun
    obtain ⟨turn, turnMember, same⟩ :=
      coherent.taken_of_not_pending fresh dependencyMember begun
    have failure := coherent.isBlockingFailure_of_taken turnMember dependencyMember same
      fun satisfies => isStuck (.done found satisfies)
    exact clear (concludes.behindFailure_of_leads dependencyMember failure leads)
  · rintro ⟨failed, failedMember, failure, path⟩
    refine clear ⟨failed, failedMember, failure, path.tail ?_⟩
    rwa [Plan.graph_eq_of_design concludes.design]

/-- A step that can never run is behind a failure or behind a cycle. -/
theorem behindFailure_or_behindCycle
    (concludes : plan.Concludes settings environment report last) (fresh : plan.Fresh)
    (member : step ∈ last.plan.steps) (pending : step.status = .pending)
    (stuck : ¬Step.Settles last.plan.steps step.id) :
    (plan.run settings environment).plan.BehindFailure step.id ∨
      plan.graph.BehindCycle step.id := by
  by_contra! clear
  -- The steps that wait without a failure before them wait for each other, in a circle.
  let Waiting (id : String) : Prop := ∃ other ∈ last.plan.steps, other.id = id ∧
    other.status = .pending ∧ ¬Step.Settles last.plan.steps other.id ∧
      ¬(plan.run settings environment).plan.BehindFailure other.id
  have listed : ∀ id, Waiting id → id ∈ plan.graph.nodes := by
    rintro id ⟨other, otherMember, rfl, -⟩
    rw [concludes.coherent.nodes]
    exact List.mem_map_of_mem otherMember
  have waits : ∀ id, Waiting id → ∃ other, Waiting other ∧ plan.graph.Leads other id := by
    rintro id ⟨waiting, waitingMember, rfl, isPending, isStuck, isClear⟩
    obtain ⟨other, otherMember, otherPending, otherStuck, otherClear, leads⟩ :=
      concludes.waits fresh waitingMember isPending isStuck isClear
    exact ⟨other.id, ⟨other, otherMember, rfl, otherPending, otherStuck, otherClear⟩, leads⟩
  exact clear.2
    (Graph.behindCycle_of_waiting listed waits ⟨step, member, rfl, pending, stuck, clear.1⟩)

/-- Without a cycle or a failure before it, a step has had its turn after the last batch. -/
theorem taken_of_clear (concludes : plan.Concludes settings environment report last)
    (fresh : plan.Fresh) (uncancelled : report.cancelled = false)
    (member : step ∈ last.plan.steps) (acyclic : ¬plan.graph.BehindCycle step.id)
    (clear : ¬(plan.run settings environment).plan.BehindFailure step.id) :
    step.id ∈ last.taken.map (·.step.id) := by
  by_contra untaken
  have coherent := concludes.coherent
  have pending := concludes.pending_of_not_taken fresh member untaken
  have unreachable : step.id ∈ Step.unreachable last.plan.steps :=
    (Step.mem_unreachable_iff_of_drained coherent.distinct coherent.idle
      (concludes.drained uncancelled)).2 ⟨step, member, rfl, pending⟩
  have stuck := ((Step.id_mem_unreachable_iff coherent.distinct member).1 unreachable).2
  rcases concludes.behindFailure_or_behindCycle fresh member pending stuck with behind | behind
  · exact clear behind
  · exact acyclic behind

end Plan.Concludes

/--
In a run that is not cancelled, of a plan none of whose steps was over before, a step has one record
if it is neither on nor behind a cycle and no step that it depends on, at any distance, failed
without being optional. Every other step is skipped in the end, and never has a turn: its arguments
are not resolved and its tool is not called.
-/
theorem one_record_iff_clear_upstream (fresh : plan.Fresh)
    (outcome : (plan.run settings environment).outcome = .ok report)
    (uncancelled : report.cancelled = false) (member : step ∈ plan.steps) :
    (report.executedSteps.countP (·.stepId = step.id) = 1 ↔
      ¬plan.graph.BehindCycle step.id ∧
        ¬(plan.run settings environment).plan.BehindFailure step.id) ∧
    (report.executedSteps.countP (·.stepId = step.id) ≠ 1 →
      (∃ skipped, (plan.run settings environment).plan.step? step.id = some skipped ∧
        skipped.status = .skipped) ∧
      report.executedSteps.countP (·.stepId = step.id) = 0 ∧
      ∀ batch ∈ (plan.run settings environment).batches, ∀ turn ∈ batch.turns,
        turn.step.id ≠ step.id) := by
  obtain ⟨last, concludes⟩ := Plan.concludes_of_run_ok outcome
  have coherent := concludes.coherent
  obtain ⟨late, lateMember, sameDesign⟩ :=
    Step.exists_of_design (coherent.design.trans (design_start plan)).symm member
  have same : late.id = step.id := Step.id_eq_of_design sameDesign
  have counted := concludes.countP_records step.id
  by_cases isTaken : step.id ∈ last.taken.map (·.step.id)
  · rw [if_pos isTaken] at counted
    refine ⟨iff_of_true counted ⟨?_, ?_⟩, fun other => absurd counted other⟩
    · obtain ⟨turn, turnMember, turnOf⟩ := List.mem_map.1 isTaken
      have accessible := acc_of_reaches concludes.valid fresh concludes.reaches turn turnMember
      exact Graph.not_behindCycle_of_acc (turnOf ▸ accessible)
    · exact concludes.not_behindFailure_of_taken fresh uncancelled (List.mem_map.1 isTaken)
  · rw [if_neg isTaken] at counted
    rw [← same] at isTaken
    have pending := concludes.pending_of_not_taken fresh lateMember isTaken
    refine ⟨iff_of_false (by omega) ?_, fun _ => ⟨?_, counted, ?_⟩⟩
    · rintro ⟨acyclic, clear⟩
      rw [← same] at acyclic clear
      exact isTaken (concludes.taken_of_clear fresh uncancelled lateMember acyclic clear)
    · refine ⟨late.abandoned, ?_, by rw [Step.abandoned_of_pending pending]⟩
      have finalDistinct : Step.Distinct (plan.run settings environment).plan.steps := by
        rw [concludes.steps_of_drained uncancelled]
        exact (Step.distinct_map Step.id_abandoned).2 coherent.distinct
      rw [Plan.step?, Step.find?_first finalDistinct, Step.find?_eq_some_iff finalDistinct,
        concludes.steps_of_drained uncancelled]
      exact ⟨List.mem_map_of_mem lateMember, by rw [Step.id_abandoned, same]⟩
    · intro batch batchMember turn turnMember turnOf
      rw [concludes.batches] at batchMember
      refine isTaken (List.mem_map.2 ⟨turn, ?_, turnOf.trans same.symm⟩)
      exact List.mem_flatMap.2 ⟨batch, batchMember, turnMember⟩

/-- Two branches behind failures, one of them optional, and a branch behind a cycle. -/
def branchingPlan : Plan :=
  { Plan.blank with
    id := "branching"
    steps :=
      [{ Step.new "fetch" "download" .null with status := .running },
        { Step.new "enrich" "lookup" .null with optional := true },
        (Step.new "merge" "join" .null).dependingOn ["fetch", "enrich"],
        (Step.new "notify" "mail" .null).dependingOn ["enrich"],
        (Step.new "left" "wait" .null).dependingOn ["right"],
        (Step.new "right" "wait" .null).dependingOn ["left"],
        (Step.new "after" "wait" .null).dependingOn ["left", "notify"]] }

/-- A world in which the first two steps of the plan with branches fail. -/
def branchingWorld : Environment :=
  Rehearsal.environment
    { context := {}
      scripts := [("fetch", [⟨20, .failure "no route"⟩]), ("enrich", [⟨10, .failure "quota"⟩])]
      cancelAt := none
      cuesResolver := false } "run" default

/-- The step behind the optional failure has its turn, and those behind the cycle have none. -/
theorem one_record_iff_clear_upstream_branching :
    ∃ report, branchingPlan.Fresh ∧
      (branchingPlan.run {} branchingWorld).outcome = .ok report ∧ report.cancelled = false ∧
      report.executedSteps.map (·.stepId) = ["enrich", "fetch", "notify"] ∧
      ¬branchingPlan.graph.BehindCycle "notify" ∧
      ¬(branchingPlan.run {} branchingWorld).plan.BehindFailure "notify" ∧
      ∃ skipped, (branchingPlan.run {} branchingWorld).plan.step? "after" = some skipped ∧
        skipped.status = .skipped := by
  have fresh : branchingPlan.Fresh := by
    unfold Plan.Fresh
    decide
  have evaluated : ((branchingPlan.run {} branchingWorld).outcome.toOption.map fun report =>
      (report.cancelled, report.executedSteps.map (·.stepId))) =
        some (false, ["enrich", "fetch", "notify"]) := by
    decide +kernel
  cases outcome : (branchingPlan.run {} branchingWorld).outcome with
  | error error =>
      rw [outcome] at evaluated
      contradiction
  | ok report =>
      rw [outcome] at evaluated
      obtain ⟨uncancelled, records⟩ := Prod.mk.inj (Option.some.inj evaluated)
      have count : ∀ id, report.executedSteps.countP (·.stepId = id) =
          ["enrich", "fetch", "notify"].count id := by
        intro id
        rw [← records]
        simp [List.count, List.countP_map, Function.comp_def, beq_eq_decide]
      have notify := one_record_iff_clear_upstream fresh outcome uncancelled
        (show branchingPlan.steps[3] ∈ branchingPlan.steps from List.getElem_mem _)
      have after := one_record_iff_clear_upstream fresh outcome uncancelled
        (show branchingPlan.steps[6] ∈ branchingPlan.steps from List.getElem_mem _)
      obtain ⟨acyclic, clear⟩ := notify.1.1 (count _)
      refine ⟨report, fresh, rfl, uncancelled, records, acyclic, clear, ?_⟩
      exact (after.2 (by rw [count]; decide)).1

end PlanRunner
