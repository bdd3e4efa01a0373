import PlanRunner.Proofs.Run.Verdicts
import PlanRunner.Proofs.Verdict.Policy
import PlanRunner.Run.Rehearsal

/-!
# What a run leaves undone

A run that was not cancelled leaves no step pending, so that a further run has nothing to do,
whatever it concludes. A run that was cancelled leaves a step that could run at once. It asks for a
new plan and says that it was cancelled, unless its failures make the rest look hopeless: then it
is called a deadlock although it is none.
-/

namespace PlanRunner

open Progress

variable {settings : Settings} {environment : Environment} {plan : Plan} {report : Report}
  {progress last : Progress} {step : Step}

/-! ## The ruling -/

/-- Where the steps ask for a new plan, the ruling passes their feedback on. -/
theorem Ruling.feedback_of_needsReplan (feedback : String) (signals : Option Signals)
    (budget : ReplanBudget) :
    ∃ before after, (of .needsReplan feedback signals budget).feedback =
      before ++ feedback ++ after := by
  have heeded : ∃ after,
      heed signals .needsReplan feedback = (.needsReplan, feedback ++ after) := by
    unfold heed
    split
    · exact ⟨"; signals: " ++ Signals.summaryOf signals, by rw [String.append_assoc]⟩
    · exact ⟨"", by simp⟩
  obtain ⟨after, same⟩ := heeded
  unfold of
  rw [same]
  cases budget.consume? with
  | some left => exact ⟨"", after, by simp⟩
  | none =>
      simp only [refusal, ← String.append_assoc]
      exact ⟨_, after, rfl⟩

/-! ## After a run that was cancelled -/

/-- Skipping the steps that can never run leaves the ready ones as they are. -/
theorem Plan.mem_skipUnreachable_of_ready (distinct : Step.Distinct plan.steps)
    (member : step ∈ plan.steps) (ready : Step.isReady plan.steps step = true) :
    step ∈ plan.skipUnreachable.steps := by
  refine List.mem_map.2 ⟨step, member, if_neg fun unreachable => ?_⟩
  have stuck := ((Step.id_mem_unreachable_iff distinct member).1 unreachable).2
  exact stuck (Step.settles_of_isReady distinct member ready)

/-- A run that was cancelled leaves a step pending. -/
theorem Plan.Concludes.exists_pending (concludes : plan.Concludes settings environment report last)
    (cancelled : report.cancelled = true) :
    ∃ step ∈ (plan.run settings environment).plan.steps, step.status = .pending := by
  obtain ⟨ready, -⟩ := concludes.cancelled cancelled
  obtain ⟨id, isReady⟩ := List.exists_mem_of_ne_nil _ ready
  obtain ⟨step, member, rfl, ready⟩ := Step.mem_ready_iff.1 isReady
  refine ⟨step, ?_, (Step.isReady_iff.1 ready).1⟩
  rw [concludes.steps]
  exact Plan.mem_skipUnreachable_of_ready concludes.coherent.distinct member ready

theorem Plan.pending_tally_ne_nil (member : step ∈ plan.steps) (pending : step.status = .pending)
    (retries : UInt32) (cancelled : Bool) : (plan.tally retries cancelled).pending ≠ [] := by
  have left : step.id ∈ plan.idsWhere Step.isLeft := by
    refine List.mem_map_of_mem (List.mem_filter.2 ⟨member, ?_⟩)
    simp [Step.isLeft, pending]
  exact List.ne_nil_of_mem left

/-! ## After a run that was not cancelled -/

theorem Step.not_pending_abandoned (step : Step) : step.abandoned.status ≠ .pending := by
  unfold abandoned
  split
  · simp
  · assumption

/-- A run that was not cancelled leaves every step over. -/
theorem Plan.Concludes.isOver (concludes : plan.Concludes settings environment report last)
    (uncancelled : report.cancelled = false)
    (member : step ∈ (plan.run settings environment).plan.steps) :
    step.status ≠ .pending ∧ step.status ≠ .running := by
  rw [concludes.steps_of_drained uncancelled] at member
  obtain ⟨old, oldMember, rfl⟩ := List.mem_map.1 member
  refine ⟨old.not_pending_abandoned, ?_⟩
  unfold Step.abandoned
  split
  · simp
  · exact concludes.coherent.idle old oldMember

/-- A run of a valid plan without a ready step ends at once. -/
theorem Plan.Valid.run_of_drained (valid : plan.Valid)
    (drained : Step.ready (start plan).plan.steps = []) :
    plan.run settings environment =
      Run.finish settings environment plan (start plan) .drained := by
  have stays : ∀ bound, runBatches settings environment bound (start plan) =
      (start plan, .drained) := runBatches_of_drained drained
  rw [valid.run_eq, stays]

/-- Where every step is over, none is ready at the start of a run. -/
theorem Plan.ready_start_of_isOver
    (isOver : ∀ step ∈ plan.steps, step.status ≠ .pending ∧ step.status ≠ .running) :
    Step.ready (start plan).plan.steps = [] := by
  rw [steps_start, Step.map_rested_of_idle fun step member => (isOver step member).2]
  refine Step.ready_eq_nil_iff.2 fun step member ready => ?_
  exact (isOver step member).1 (Step.isReady_iff.1 ready).1

/-- Where every step is over, a run has nothing to do. -/
theorem Plan.run_of_isOver
    (isOver : ∀ step ∈ plan.steps, step.status ≠ .pending ∧ step.status ≠ .running) :
    (plan.run settings environment).batches = [] ∧
      ∀ report, (plan.run settings environment).outcome = .ok report →
        report.executedSteps = [] := by
  by_cases valid : plan.Valid
  · rw [valid.run_of_drained (Plan.ready_start_of_isOver isOver)]
    refine ⟨rfl, fun report outcome => ?_⟩
    cases outcome
    rfl
  · refine ⟨?_, fun report outcome => absurd (Plan.valid_of_run_ok outcome) valid⟩
    obtain ⟨error, ran⟩ := Plan.run_of_not_valid valid settings environment
    rw [ran]
    rfl

/--
A run that was cancelled leaves a step pending. As long as it is not hopeless it asks for a new plan
and says that it was cancelled. A run that was not cancelled leaves no step pending, so that after a
deadlock of such a run no further run attempts anything. Just the hopeless cases are deadlocks.
-/
theorem deadlock_is_final_unless_cancelled
    (outcome : (plan.run settings environment).outcome = .ok report) :
    (report.conclusion = .deadlock ↔
      (plan.tallyAfter settings environment report.cancelled).Hopeless) ∧
    (report.cancelled = true →
      (∃ step ∈ (plan.run settings environment).plan.steps, step.status = .pending) ∧
      (¬(plan.tallyAfter settings environment true).Hopeless →
        (plan.tallyAfter settings environment true).conclusion = .needsReplan ∧
        (plan.tallyAfter settings environment true).feedback .needsReplan =
          (plan.tallyAfter settings environment true).cancelledFeedback ∧
        ∃ before after, report.feedback =
          before ++ (plan.tallyAfter settings environment true).cancelledFeedback ++ after)) ∧
    (report.cancelled = false →
      (∀ step ∈ (plan.run settings environment).plan.steps, step.status ≠ .pending) ∧
      ∀ later world,
        ((plan.run settings environment).plan.run later world).batches = [] ∧
        ∀ rest, ((plan.run settings environment).plan.run later world).outcome = .ok rest →
          rest.executedSteps = []) := by
  have ruled := Plan.ruled_of_run_ok outcome
  obtain ⟨last, concludes⟩ := Plan.concludes_of_run_ok outcome
  refine ⟨?_, ?_, ?_⟩
  · rw [ruled.conclusion, Plan.rulingAfter, Ruling.conclusion_eq_deadlock_iff,
      Tally.conclusion_eq_deadlock_iff]
  · intro cancelled
    obtain ⟨step, member, isPending⟩ := concludes.exists_pending cancelled
    refine ⟨⟨step, member, isPending⟩, fun hope => ?_⟩
    have pending : (plan.tallyAfter settings environment true).pending ≠ [] :=
      Plan.pending_tally_ne_nil member isPending _ _
    have conclusion := Tally.conclusion_of_pending pending hope
    have feedback : (plan.tallyAfter settings environment true).feedback .needsReplan =
        (plan.tallyAfter settings environment true).cancelledFeedback :=
      Tally.feedback_of_cancelled rfl pending
    refine ⟨conclusion, feedback, ?_⟩
    rw [ruled.feedback, Plan.rulingAfter, cancelled, conclusion, feedback]
    exact Ruling.feedback_of_needsReplan _ _ _
  · intro uncancelled
    have isOver := fun step (member : step ∈ (plan.run settings environment).plan.steps) =>
      concludes.isOver uncancelled member
    exact ⟨fun step member => (isOver step member).1, fun later world => Plan.run_of_isOver isOver⟩

/-- A step that fails, a step that depends on it, and a step that depends on nothing. -/
def pressPlan : Plan :=
  { Plan.blank with
    id := "press"
    steps :=
      [Step.new "typeset" "compose" .null,
        (Step.new "proof" "print" .null).dependingOn ["typeset"],
        Step.new "deliver" "post" .null] }

/-- A world in which the first step fails, and the run is cancelled at some point. -/
def pressWorld (cancelAt : Option CancelPoint) : Environment :=
  Rehearsal.environment
    { context := {}, scripts := [("typeset", [⟨20, .failure "no type"⟩])], cancelAt
      cuesResolver := false } "run" default

/-- Settings for runs that take one step at a time. -/
def pressSettings : Settings := { maxParallelSteps := 1 }

/-- Cancelled at once the plan asks for a new one; left alone it comes to a deadlock that stays. -/
theorem deadlock_is_final_unless_cancelled_press :
    (∃ report before after,
      (pressPlan.run pressSettings (pressWorld (some .beforeStart))).outcome = .ok report ∧
      report.conclusion = .needsReplan ∧
      report.feedback = before ++ "Execution cancelled with 3 step(s) still pending (" ++
        "typeset, proof, deliver); needs replan" ++ after) ∧
    ∃ report, (pressPlan.run pressSettings (pressWorld none)).outcome = .ok report ∧
      report.conclusion = .deadlock ∧
      ∀ later world, ((pressPlan.run pressSettings (pressWorld none)).plan.run later
        world).batches = [] := by
  constructor
  · have seen : (pressPlan.run pressSettings
        (pressWorld (some .beforeStart))).outcome.toOption.map (fun report =>
          (report.cancelled, report.conclusion)) = some (true, .needsReplan) := by decide +kernel
    cases outcome : (pressPlan.run pressSettings (pressWorld (some .beforeStart))).outcome with
    | error error => simp [outcome, Except.toOption] at seen
    | ok report =>
        obtain ⟨cancelled, conclusion⟩ : report.cancelled = true ∧
            report.conclusion = .needsReplan := by
          simpa [outcome, Except.toOption] using seen
        obtain ⟨-, whenCancelled, -⟩ := deadlock_is_final_unless_cancelled outcome
        obtain ⟨-, -, before, after, feedback⟩ := (whenCancelled cancelled).2 (by decide +kernel)
        refine ⟨report, before, after, rfl, conclusion, feedback.trans ?_⟩
        have text : (pressPlan.tallyAfter pressSettings (pressWorld (some .beforeStart))
            true).cancelledFeedback = "Execution cancelled with 3 step(s) still pending (" ++
              "typeset, proof, deliver); needs replan" := by decide +kernel
        rw [text, ← String.append_assoc]
  · have seen : (pressPlan.run pressSettings (pressWorld none)).outcome.toOption.map
        (fun report => (report.cancelled, report.conclusion)) = some (false, .deadlock) := by
      decide +kernel
    cases outcome : (pressPlan.run pressSettings (pressWorld none)).outcome with
    | error error => simp [outcome, Except.toOption] at seen
    | ok report =>
        obtain ⟨uncancelled, conclusion⟩ : report.cancelled = false ∧
            report.conclusion = .deadlock := by
          simpa [outcome, Except.toOption] using seen
        obtain ⟨-, -, whenNot⟩ := deadlock_is_final_unless_cancelled outcome
        exact ⟨report, rfl, conclusion, fun later world => ((whenNot uncancelled).2 later world).1⟩

/-- A run that was cancelled is called a deadlock although a next run attempts a step. -/
theorem cancelled_deadlock_is_not_final :
    (pressPlan.run pressSettings (pressWorld (some (.afterStep "typeset")))).outcome.toOption.map
        (fun report => (report.cancelled, report.conclusion)) = some (true, .deadlock) ∧
    (pressPlan.tallyAfter pressSettings (pressWorld (some (.afterStep "typeset")))
      true).conclusion = .deadlock ∧
    (pressPlan.run pressSettings
      (pressWorld (some (.afterStep "typeset")))).plan.idsWithStatus .pending = ["deliver"] ∧
    (((pressPlan.run pressSettings (pressWorld (some (.afterStep "typeset")))).plan.run
      pressSettings (pressWorld none)).outcome.toOption.map fun rest =>
        rest.executedSteps.map (·.stepId)) = some ["deliver"] := by
  decide +kernel

end PlanRunner
