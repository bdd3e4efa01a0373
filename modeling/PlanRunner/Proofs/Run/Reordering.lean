import PlanRunner.Proofs.Run.Resumption

/-!
# The order in which turns end

The turns of a batch see the steps as they are when the batch starts, and each of them writes to its
own step. So it does not matter in which order they end: runs that differ in nothing else take the
same batches, make the same calls and leave the same plan. Only the records of a batch stand in the
order in which its turns ended.
-/

namespace PlanRunner

open Progress

variable {settings : Settings} {environment other : Environment} {plan : Plan} {report : Report}
  {batch second : Batch} {first last : Progress} {input : String}

/-! ## Batches -/

/-- What the steps of a batch ask their tools to do, turn by turn. -/
def Batch.actions (batch : Batch) : List Action :=
  batch.turns.flatMap fun turn => turn.calls.map (·.action)

/-- Two batches of the same steps with the same calls. Their records differ in their order only. -/
structure Batch.Exchanged (environment other : Environment) (batch second : Batch) : Prop where
  alike : batch.Alike second
  ids : batch.turns.map (·.step.id) = second.turns.map (·.step.id)
  actions : batch.actions = second.actions
  records : (batch.outcomes environment).Perm (second.outcomes other)

namespace Batch.Alike

theorem actions_eq (alike : batch.Alike second) : batch.actions = second.actions := by
  have actions : ∀ batch : Batch, batch.actions =
      (batch.turns.map Turn.untimed).flatMap fun turn => turn.calls.map (·.action) := by
    intro batch
    simp only [Batch.actions, List.flatMap_map, Turn.untimed, List.map_map]
    rfl
  rw [actions, actions, alike]

theorem exchanged (alike : batch.Alike second) : batch.Exchanged environment other second := by
  constructor
  · exact alike
  · exact alike.sameOutcomes.ids_eq
  · exact alike.actions_eq
  · exact alike.sameOutcomes.outcomes_perm

end Batch.Alike

/-! ## Runs -/

/-- A report without its records, and without what tells one run from another. -/
def Report.verdict (report : Report) : Report :=
  { report with runId := "", executedSteps := [], executionTime := 0 }

/-- What a run leaves and reports follows from the plan after its last batch. -/
theorem Run.finish_congr (start : Plan) (same : first.plan = last.plan) :
    (finish settings environment start first .drained).plan =
        (finish settings other start last .drained).plan ∧
      (finish settings environment start first .drained).outcome.map Report.verdict =
        (finish settings other start last .drained).outcome.map Report.verdict := by
  constructor
  · simp only [finish, same]
  · simp only [finish, same, Except.map, Report.verdict, report]

/-- Of two runs that have come equally far, the plans are the same. -/
theorem Follows.plan_eq (follows : Follows [] [] first last)
    (coherent : Coherent (start plan) first) (coherentLast : Coherent (start plan) last) :
    first.plan = last.plan := by
  have steps : first.plan.steps = last.plan.steps := by
    rw [follows.steps, Step.map_shelve_nil]
  rw [coherent.frame, coherentLast.frame, steps]

/--
It does not matter in which order the turns of a batch end. Runs of a plan under the same settings,
with the same input and the same answers, take the same batches and make the same calls in them.
They leave the same plan and report the same of it, but for the run itself and the records, and the
records of each batch are the same in another order, times aside.
-/
theorem completion_order_immaterial (valid : plan.validate = .ok ())
    (templates : environment.UsesTemplates input) (otherTemplates : other.UsesTemplates input)
    (answers : SameAnswers settings settings environment.toGateways other.toGateways)
    (uncancelled : plan.Uncancelled settings environment)
    (otherUncancelled : plan.Uncancelled settings other) :
    ∃ report otherReport,
      (plan.run settings environment).outcome = .ok report ∧
      (plan.run settings other).outcome = .ok otherReport ∧
      (plan.run settings environment).plan = (plan.run settings other).plan ∧
      report.verdict = otherReport.verdict ∧
      List.Forall₂ (Batch.Exchanged environment other) (plan.run settings environment).batches
        (plan.run settings other).batches ∧
      report.executedSteps.map StepRecord.untimed =
        (plan.run settings environment).batches.flatMap (·.outcomes environment) ∧
      otherReport.executedSteps.map StepRecord.untimed =
        (plan.run settings other).batches.flatMap (·.outcomes other) := by
  rw [Plan.validate_eq_ok] at valid
  obtain ⟨report, outcome⟩ := valid.run_ok fun step steps => ⟨_, templates step steps⟩
  obtain ⟨otherReport, otherOutcome⟩ :=
    valid.run_ok fun step steps => ⟨_, otherTemplates step steps⟩
  obtain ⟨first, reaches, drained, ran⟩ :=
    Plan.exists_drained_of_run_ok outcome (uncancelled report outcome)
  obtain ⟨last, otherReaches, otherDrained, otherRan⟩ :=
    Plan.exists_drained_of_run_ok otherOutcome (otherUncancelled otherReport otherOutcome)
  have start := valid.coherent_start
  -- Batch by batch the two runs come equally far, and neither stops before the other.
  have follows : Follows [] [] first last :=
    (follows_start plan).to_end answers templates otherTemplates start start reaches otherReaches
      otherDrained drained
  have plans := follows.plan_eq (start.of_reaches reaches) (start.of_reaches otherReaches)
  obtain ⟨left, reported⟩ : _ ∧ _ := Run.finish_congr plan plans
  rw [← ran, ← otherRan] at left reported
  rw [outcome, otherOutcome] at reported
  obtain ⟨later, batches, alike⟩ := follows.batches
  rw [List.nil_append] at batches
  subst batches
  refine ⟨report, otherReport, outcome, otherOutcome, left, Except.ok.inj reported, ?_,
    Plan.records_untimed_of_run_ok outcome, Plan.records_untimed_of_run_ok otherOutcome⟩
  rw [ran, otherRan, Run.batches_finish, Run.batches_finish]
  exact alike.imp fun batch second => Batch.Alike.exchanged

/-- Three steps that run side by side, one of which refers to another, and one that follows. -/
def choirPlan : Plan :=
  { Plan.blank with
    id := "choir"
    steps :=
      [{ Step.new "echo" "sing" (.string "\x7b\x7bshout\x7d\x7d") with optional := true },
        Step.new "shout" "sing" (.string "ho"),
        Step.new "hum" "sing" (.string "mm"),
        (Step.new "reply" "sing"
          (.string "\x7b\x7bshout\x7d\x7d, \x7b\x7bhum\x7d\x7d")).dependingOn
            ["shout", "echo"]] }

/-- A world in which two of the steps take their time. -/
def choirWorld (shout hum : UInt64) : Environment :=
  Rehearsal.environment
    { context := {}
      scripts :=
        [("shout", [⟨shout, .success (.string "hey")⟩]), ("hum", [⟨hum, .failure "hoarse"⟩])]
      cancelAt := none
      cuesResolver := false } "run" default

theorem choirWorld_answers (shout hum laterShout laterHum : UInt64) :
    SameAnswers {} {} (choirWorld shout hum).toGateways
      (choirWorld laterShout laterHum).toGateways := by
  refine ⟨rfl, fun action before => ?_⟩
  change (Rehearsal.invoke _ action before).value = (Rehearsal.invoke _ action before).value
  unfold Rehearsal.invoke
  by_cases shouts : action.stepId = "shout"
  · rw [shouts]
    cases before <;> rfl
  · by_cases hums : action.stepId = "hum"
    · rw [hums]
      cases before <;> rfl
    · have notShout : (action.stepId == "shout") = false := by simpa using shouts
      have notHum : (action.stepId == "hum") = false := by simpa using hums
      simp [List.lookup_cons, notShout, notHum]

/-- Whoever comes first, the echo finds nothing to refer to, and the records tell who came first. -/
theorem completion_order_immaterial_choir :
    ∃ report otherReport,
      (choirPlan.run {} (choirWorld 10 20)).outcome = .ok report ∧
      report.executedSteps.map (·.stepId) = ["echo", "shout", "hum", "reply"] ∧
      (choirPlan.run {} (choirWorld 20 10)).outcome = .ok otherReport ∧
      otherReport.executedSteps.map (·.stepId) = ["echo", "hum", "shout", "reply"] ∧
      (choirPlan.run {} (choirWorld 10 20)).plan = (choirPlan.run {} (choirWorld 20 10)).plan ∧
      report.verdict = otherReport.verdict ∧
      List.Forall₂ (Batch.Exchanged (choirWorld 10 20) (choirWorld 20 10))
        (choirPlan.run {} (choirWorld 10 20)).batches
        (choirPlan.run {} (choirWorld 20 10)).batches := by
  have seen : ((choirPlan.run {} (choirWorld 10 20)).outcome.toOption.map fun report =>
      report.executedSteps.map (·.stepId)) = some ["echo", "shout", "hum", "reply"] := by
    decide +kernel
  have seenToo : ((choirPlan.run {} (choirWorld 20 10)).outcome.toOption.map fun report =>
      report.executedSteps.map (·.stepId)) = some ["echo", "hum", "shout", "reply"] := by
    decide +kernel
  obtain ⟨report, otherReport, outcome, otherOutcome, left, verdicts, batches, -, -⟩ :=
    completion_order_immaterial (show choirPlan.validate = .ok () from rfl) (fun _ _ => rfl)
      (fun _ _ => rfl) (choirWorld_answers 10 20 20 10) (Plan.uncancelled_of_free fun _ => rfl)
      (Plan.uncancelled_of_free fun _ => rfl)
  rw [outcome] at seen
  rw [otherOutcome] at seenToo
  exact ⟨report, otherReport, outcome, Option.some.inj seen, otherOutcome,
    Option.some.inj seenToo, left, verdicts, batches⟩

end PlanRunner
