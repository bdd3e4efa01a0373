import PlanRunner.Proofs.Run.Deadlock
import PlanRunner.Proofs.Run.Permanence
import PlanRunner.Proofs.Run.Resumption

/-!
# How a run leaves its steps

A run that gives a report leaves no step running. If it was not cancelled then every step has
succeeded, failed or been skipped, and the lists of the report share the steps out. If it was
cancelled then all steps that were ready are left pending. Skipping the steps that can never run
leaves the others able to run, so that no step is left that can never run and is not skipped.
-/

namespace PlanRunner

open Progress

variable {settings : Settings} {environment : Environment} {plan : Plan} {report : Report}
  {last : Progress} {step : Step} {id : String}

/-! ## Steps that can never run -/

/-- No step that settles is skipped. -/
theorem Step.not_mem_unreachable {steps : List Step} (distinct : Distinct steps)
    (settles : Settles steps id) : id ∉ unreachable steps := by
  intro unreachable
  obtain ⟨other, -, rfl, -, stuck⟩ := (mem_unreachable_iff distinct).1 unreachable
  exact stuck settles

theorem Plan.steps_skipUnreachable (plan : Plan) :
    plan.skipUnreachable.steps = plan.steps.map (Step.shelve (Step.unreachable plan.steps)) := rfl

/-- What settles still does when the steps that can never run have been skipped. -/
theorem Plan.settles_skipUnreachable (distinct : Step.Distinct plan.steps)
    (settles : Step.Settles plan.steps id) : Step.Settles plan.skipUnreachable.steps id := by
  have kept : ∀ {id}, Step.Settles plan.steps id →
      Step.find? plan.skipUnreachable.steps id = Step.find? plan.steps id :=
    fun settles => Step.find?_shelve _ (Step.not_mem_unreachable distinct settles)
  induction settles with
  | done found satisfies =>
      exact .done ((kept (.done found satisfies)).trans found) satisfies
  | inFlight found running =>
      exact .inFlight ((kept (.inFlight found running)).trans found) running
  | waiting found pending dependencies ih =>
      exact .waiting ((kept (.waiting found pending dependencies)).trans found) pending ih

/-- Once the steps that can never run have been skipped there are no more of them. -/
theorem Plan.unreachable_skipUnreachable (distinct : Step.Distinct plan.steps) :
    Step.unreachable plan.skipUnreachable.steps = [] := by
  have laterDistinct := (plan.persists_skipUnreachable distinct).distinct distinct
  refine List.eq_nil_iff_forall_not_mem.2 fun id unreachable => ?_
  obtain ⟨late, member, rfl, pending, stuck⟩ :=
    (Step.mem_unreachable_iff laterDistinct).1 unreachable
  rw [plan.steps_skipUnreachable] at member
  obtain ⟨step, stepMember, rfl⟩ := List.mem_map.1 member
  by_cases skipped : step.id ∈ Step.unreachable plan.steps
  · simp [Step.shelve_of_mem skipped] at pending
  · rw [Step.shelve_of_not_mem skipped] at pending stuck
    refine stuck (plan.settles_skipUnreachable distinct ?_)
    by_contra isStuck
    exact skipped ((Step.id_mem_unreachable_iff distinct stepMember).2 ⟨pending, isStuck⟩)

/-! ## The lists of a report -/

/-- What a report says about the plan as the run leaves it. -/
structure Plan.Reported (settings : Settings) (environment : Environment) (plan : Plan)
    (report : Report) : Prop where
  successful : report.successfulSteps =
    (plan.run settings environment).plan.idsWithStatus .succeeded
  failed : report.failedSteps = (plan.run settings environment).plan.idsWithStatus .failed
  skipped : report.skippedSteps = (plan.run settings environment).plan.idsWithStatus .skipped
  brief : report.brief =
    if report.conclusion = .needsReplan then
      some (Replan.brief (plan.run settings environment).plan report.cancelled)
    else none
  status : (plan.run settings environment).plan.status = Plan.statusAfter report.conclusion

theorem Plan.reported_of_run_ok (outcome : (plan.run settings environment).outcome = .ok report) :
    plan.Reported settings environment report := by
  have valid := Plan.valid_of_run_ok outcome
  obtain ⟨last, final, stop, reaches, stops, ran⟩ := valid.run_stops settings environment
  have finished := outcome
  rw [ran] at finished
  cases stops with
  | drained drained | cancelled ready cancelled =>
      cases finished
      constructor <;> rw [ran] <;> rfl
  | broken ready free broke => contradiction

/-- Steps that are over are those that succeeded, those that failed and those that were skipped. -/
theorem Step.perm_of_isOver {steps : List Step}
    (isOver : ∀ step ∈ steps, step.status ≠ .pending ∧ step.status ≠ .running) :
    (steps.filter (·.status = .succeeded) ++ steps.filter (·.status = .failed) ++
      steps.filter (·.status = .skipped)).Perm steps := by
  induction steps with
  | nil => exact .nil
  | cons first rest ih =>
      obtain ⟨⟨notPending, notRunning⟩, restOver⟩ := List.forall_mem_cons.1 isOver
      have perm := (ih restOver).cons first
      cases status : first.status with
      | pending => contradiction
      | running => contradiction
      | succeeded => simpa [status] using perm
      | failed =>
          refine List.Perm.trans ?_ perm
          simp [status]
      | skipped =>
          refine List.Perm.trans ?_ perm
          simp only [List.filter_cons, status, reduceCtorEq, decide_false, decide_true,
            Bool.false_eq_true, if_false, if_true]
          exact List.perm_middle

theorem Plan.idsWithStatus_perm
    (isOver : ∀ step ∈ plan.steps, step.status ≠ .pending ∧ step.status ≠ .running) :
    (plan.idsWithStatus .succeeded ++ plan.idsWithStatus .failed ++
      plan.idsWithStatus .skipped).Perm (plan.steps.map (·.id)) := by
  have perm := (Step.perm_of_isOver isOver).map (·.id)
  rwa [List.map_append, List.map_append] at perm

theorem Plan.idsWithStatus_sublist (plan : Plan) (status : StepStatus) :
    (plan.idsWithStatus status).Sublist (plan.steps.map (·.id)) :=
  List.filter_sublist.map _

/-! ## The statuses at the end -/

/-- The plan of a run when no further batch is taken, before any step is skipped. -/
def Plan.stopped (settings : Settings) (environment : Environment) (plan : Plan) : Plan :=
  plan.started.replay environment (plan.run settings environment).batches

namespace Plan.Concludes

theorem stopped_eq (concludes : plan.Concludes settings environment report last) :
    plan.stopped settings environment = last.plan := by
  rw [Plan.stopped, concludes.batches]
  exact (plan_eq_replay concludes.valid concludes.reaches).symm

theorem not_running (concludes : plan.Concludes settings environment report last)
    (member : step ∈ (plan.run settings environment).plan.steps) : step.status ≠ .running := by
  rw [concludes.steps, steps_skipUnreachable] at member
  obtain ⟨old, oldMember, rfl⟩ := List.mem_map.1 member
  unfold Step.shelve
  split
  · simp
  · exact concludes.coherent.idle old oldMember

/-- All steps that were ready when a run was cancelled are pending after it. -/
theorem ready_subset (concludes : plan.Concludes settings environment report last) :
    Step.ready (plan.stopped settings environment).steps ⊆
      (plan.run settings environment).plan.idsWithStatus .pending := by
  rw [concludes.stopped_eq]
  intro id isReady
  obtain ⟨step, member, rfl, ready⟩ := Step.mem_ready_iff.1 isReady
  have late := Plan.mem_skipUnreachable_of_ready concludes.coherent.distinct member ready
  rw [← concludes.steps] at late
  refine List.mem_map_of_mem (List.mem_filter.2 ⟨late, ?_⟩)
  simpa using (Step.isReady_iff.1 ready).1

end Plan.Concludes

/--
A run that gives a report leaves no step running, and no step pending that can never run. If it was
not cancelled then no step is pending either, and every step is in one of the lists of the report,
in plan order. If it was cancelled, some steps were ready, and those are pending.
-/
theorem statuses_after_run (outcome : (plan.run settings environment).outcome = .ok report) :
    (∀ step ∈ (plan.run settings environment).plan.steps, step.status ≠ .running) ∧
    Step.unreachable (plan.run settings environment).plan.steps = [] ∧
    (report.cancelled = false →
      (∀ step ∈ (plan.run settings environment).plan.steps, step.status ≠ .pending) ∧
      report.successfulSteps.Sublist (plan.steps.map (·.id)) ∧
      report.failedSteps.Sublist (plan.steps.map (·.id)) ∧
      report.skippedSteps.Sublist (plan.steps.map (·.id)) ∧
      (report.successfulSteps ++ report.failedSteps ++ report.skippedSteps).Perm
        (plan.steps.map (·.id)) ∧
      (report.successfulSteps ++ report.failedSteps ++ report.skippedSteps).Nodup) ∧
    (report.cancelled = true →
      (plan.run settings environment).plan.idsWithStatus .pending ≠ [] ∧
      Step.ready (plan.stopped settings environment).steps ⊆
        (plan.run settings environment).plan.idsWithStatus .pending) := by
  obtain ⟨last, concludes⟩ := Plan.concludes_of_run_ok outcome
  have distinct := concludes.coherent.distinct
  have ids := (plan.persists_run settings environment).ids
  refine ⟨fun step member => concludes.not_running member, ?_, fun uncancelled => ?_,
    fun cancelled => ⟨?_, concludes.ready_subset⟩⟩
  · rw [concludes.steps]
    exact Plan.unreachable_skipUnreachable distinct
  · have isOver := fun step (member : step ∈ (plan.run settings environment).plan.steps) =>
      concludes.isOver uncancelled member
    have reported := Plan.reported_of_run_ok outcome
    have perm := Plan.idsWithStatus_perm isOver
    rw [reported.successful, reported.failed, reported.skipped, ← ids]
    refine ⟨fun step member => (isOver step member).1, Plan.idsWithStatus_sublist _ _,
      Plan.idsWithStatus_sublist _ _, Plan.idsWithStatus_sublist _ _, perm, ?_⟩
    rw [perm.nodup_iff, ids]
    exact concludes.valid.distinct
  · obtain ⟨id, isReady⟩ := List.exists_mem_of_ne_nil _ (concludes.cancelled cancelled).1
    rw [← concludes.stopped_eq] at isReady
    exact List.ne_nil_of_mem (concludes.ready_subset isReady)

/-- Left alone the lists share the steps out; cancelled, the step that was ready is pending. -/
theorem statuses_after_run_press :
    (∃ report, (pressPlan.run pressSettings (pressWorld none)).outcome = .ok report ∧
      report.cancelled = false ∧
      (report.successfulSteps ++ report.failedSteps ++ report.skippedSteps).Perm
        ["typeset", "proof", "deliver"]) ∧
    ∃ report, (pressPlan.run pressSettings
        (pressWorld (some (.afterStep "typeset")))).outcome = .ok report ∧
      report.cancelled = true ∧ report.skippedSteps = ["proof"] ∧
      Step.unreachable (pressPlan.run pressSettings
        (pressWorld (some (.afterStep "typeset")))).plan.steps = [] ∧
      "deliver" ∈ (pressPlan.run pressSettings
        (pressWorld (some (.afterStep "typeset")))).plan.idsWithStatus .pending := by
  constructor
  · have seen : (pressPlan.run pressSettings (pressWorld none)).outcome.toOption.map
        (·.cancelled) = some false := by decide +kernel
    obtain ⟨report, outcome, uncancelled⟩ := Run.exists_of_seen seen
    obtain ⟨-, -, whenNot, -⟩ := statuses_after_run outcome
    obtain ⟨-, -, -, -, perm, -⟩ := whenNot uncancelled
    exact ⟨report, outcome, uncancelled, perm⟩
  · have seen : (pressPlan.run pressSettings
        (pressWorld (some (.afterStep "typeset")))).outcome.toOption.map
          (fun report => (report.cancelled, report.skippedSteps)) = some (true, ["proof"]) := by
      decide +kernel
    obtain ⟨report, outcome, view⟩ := Run.exists_of_seen seen
    obtain ⟨cancelled, skipped⟩ := Prod.mk.inj view
    obtain ⟨-, reachable, -, whenCancelled⟩ := statuses_after_run outcome
    have ready : "deliver" ∈ Step.ready (pressPlan.stopped pressSettings
        (pressWorld (some (.afterStep "typeset")))).steps := by decide +kernel
    exact ⟨report, outcome, cancelled, skipped, reachable, (whenCancelled cancelled).2 ready⟩

end PlanRunner
