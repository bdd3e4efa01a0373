import PlanRunner.Proofs.Replan.Patterns
import PlanRunner.Proofs.Run.Accounts
import PlanRunner.Proofs.Run.Statuses
import PlanRunner.Proofs.Verdict.Policy

/-!
# How failures steer the next plan

A run writes the cause of a failure into an error message, and the brief for the planner reads it
out again. Between the two the message stays on its step, so that the brief knows of every step that
had inputs missing and of every call that took too long, whatever else went wrong.
-/

namespace PlanRunner

open Progress

variable {settings : Settings} {environment : Environment} {plan : Plan} {report : Report}
  {step : Step} {turn : Turn} {record : StepRecord} {message : String}

/-! ## Briefs -/

namespace Replan

/-- A brief that puts a new plan down to missing inputs. -/
structure Brief.BlamesInputs (brief : Brief) : Prop where
  pattern : "missing_inputs" ∈ brief.patterns
  strategy : brief.suggestedStrategy = "gather_missing_inputs"

/-- A brief that puts a new plan down to a call that took too long, or else to missing inputs. -/
structure Brief.BlamesTimeout (brief : Brief) : Prop where
  pattern : "timeout" ∈ brief.patterns
  strategy : brief.suggestedStrategy =
    if "missing_inputs" ∈ brief.patterns then "gather_missing_inputs" else "retry_with_backoff"

/-- The errors of failures that count are among the messages that a brief is made from. -/
theorem mem_failureMessages (member : step ∈ plan.steps)
    (failure : step.isBlockingFailure = true) (error : step.error = some message) :
    message ∈ failureMessages (failedSteps plan) plan.metadata.signals := by
  have failed : ⟨step.id, step.tool, message⟩ ∈ failedSteps plan :=
    List.mem_map.2 ⟨step, List.mem_filter.2 ⟨member, failure⟩, by rw [error, Option.getD_some]⟩
  exact List.mem_append_left _ (List.mem_map.2 ⟨_, failed, rfl⟩)

theorem blamesInputs_brief {labels : List String} (member : step ∈ plan.steps)
    (failure : step.isBlockingFailure = true)
    (error : step.error.map Answer.failure = some (.missingInputs labels)) (cancelled : Bool) :
    (brief plan cancelled).BlamesInputs := by
  obtain ⟨message, isError, isMissing⟩ := Option.map_eq_some_iff.1 error
  have pattern : "missing_inputs" ∈ (brief plan cancelled).patterns :=
    missingInputs_mem_patterns isMissing.symm (mem_failureMessages member failure isError)
  exact ⟨pattern, suggestStrategy_of_missingInputs pattern _⟩

theorem blamesTimeout_brief {seconds : UInt64} (member : step ∈ plan.steps)
    (failure : step.isBlockingFailure = true)
    (error : step.error.map Answer.failure = some (.timedOut seconds)) (cancelled : Bool) :
    (brief plan cancelled).BlamesTimeout := by
  obtain ⟨message, isError, isLate⟩ := Option.map_eq_some_iff.1 error
  have pattern : "timeout" ∈ (brief plan cancelled).patterns :=
    timeout_mem_patterns isLate.symm (mem_failureMessages member failure isError)
  exact ⟨pattern, suggestStrategy_of_timeout pattern _⟩

end Replan

/-! ## Steps and their records -/

/-- A step whose inputs are missing fails with the message for that, and is otherwise the same. -/
theorem Turn.failed_of_missing {gateways : Gateways} {steps : List Step} {resolution : Resolution}
    (resolves : (gateways.resolve step steps).value = .ok resolution) (settings : Settings)
    (missing : resolution.missing ≠ []) :
    (take settings gateways steps step).marked.status = .failed ∧
      (take settings gateways steps step).marked.optional = step.optional ∧
      (take settings gateways steps step).marked.error.map Answer.failure =
        some (.missingInputs resolution.missing) := by
  obtain ⟨-, ending⟩ := take_of_missing resolves settings missing
  rw [marked, ending, step_take]
  exact ⟨rfl, rfl, rfl⟩

/-- A record agrees with the step of its identifier, as a run has left it. -/
theorem Plan.agrees_of_run_ok (outcome : (plan.run settings environment).outcome = .ok report)
    (recorded : record ∈ report.executedSteps)
    (member : step ∈ (plan.run settings environment).plan.steps)
    (named : step.id = record.stepId) : record.Agrees step := by
  have distinct := (plan.persists_run settings environment).distinct
    (Plan.valid_of_run_ok outcome).distinct
  obtain ⟨other, otherMember, agrees⟩ := exists_agrees outcome recorded
  rw [distinct.eq_of_id_eq member otherMember (named.trans agrees.named.symm)]
  exact agrees

namespace StepRecord.Agrees

variable (agrees : record.Agrees step)

include agrees

/-- A step with an error on record failed. -/
theorem failed_of_error (error : record.error = some message) : step.status = .failed := by
  have explained := agrees.explained
  rw [error] at explained
  rw [agrees.status]
  cases success : record.success with
  | true => simp [success] at explained
  | false => rfl

/-- A step that succeeded on record has the result that is on record. -/
theorem succeeded (success : record.success = true) :
    step.status = .succeeded ∧
      ∃ result, record.result = some result ∧ step.result = some result := by
  have answered := agrees.answered
  rw [success, Option.isSome_iff_exists] at answered
  obtain ⟨result, isResult⟩ := answered
  exact ⟨by rw [agrees.status, success]; rfl, result, isResult, agrees.result.trans isResult⟩

end StepRecord.Agrees

/-! ## The whole run -/

/-- A brief that gives a true account of a plan and of the run that has left the plan so. -/
structure Report.Briefs (report : Report) (plan : Plan) (brief : Replan.Brief) : Prop where
  /-- All steps that succeeded are preserved, with their results, in plan order. -/
  preserved : brief.preserved = (plan.steps.filter (·.status = .succeeded)).map fun step =>
    ⟨step.id, step.tool, step.result.getD .null⟩
  successfulIds : brief.successfulIds = report.successfulSteps
  preservedIds : brief.preserved.map (·.id) = report.successfulSteps
  /-- All failures that count are listed, with their errors, in plan order. -/
  failed : brief.failed =
    (plan.steps.filter fun step => step.status = .failed && !step.optional).map fun step =>
      ⟨step.id, step.tool, step.error.getD "unknown error"⟩
  /-- Only steps that had succeeded before the run can be without a result. -/
  results : ∀ record ∈ report.executedSteps, record.success = true →
    ∃ kept ∈ brief.preserved, kept.id = record.stepId ∧ record.result = some kept.result

theorem Plan.briefs_of_run_ok (outcome : (plan.run settings environment).outcome = .ok report) :
    report.Briefs (plan.run settings environment).plan
      (Replan.brief (plan.run settings environment).plan report.cancelled) := by
  have reported := Plan.reported_of_run_ok outcome
  have ids : (Replan.preservedSteps (plan.run settings environment).plan).map (·.id) =
      report.successfulSteps := by
    rw [reported.successful, Replan.preservedSteps, List.map_map]
    rfl
  refine ⟨rfl, ids, ids, rfl, fun record recorded success => ?_⟩
  obtain ⟨step, member, agrees⟩ := exists_agrees outcome recorded
  obtain ⟨succeeded, result, isResult, onStep⟩ := agrees.succeeded success
  refine ⟨⟨step.id, step.tool, result⟩, List.mem_map.2 ⟨step, ?_, ?_⟩, agrees.named, isResult⟩
  · exact List.mem_filter.2 ⟨member, by simpa using succeeded⟩
  · rw [onStep, Option.getD_some]

/--
A run that asks for a new plan tells the planner why. If some step that counts had inputs missing
when it had its turn, the brief blames missing inputs, whatever else there is. If the error of a
step that counts is that a call took too long, on the plan or on record, the brief blames that,
unless it blames missing inputs. The brief preserves all steps that succeeded and lists all failures
that count.
-/
theorem failures_steer_strategy
    (outcome : (plan.run settings environment).outcome = .ok report)
    (asks : report.conclusion = .needsReplan) :
    ∃ brief, report.brief = some brief ∧
      (∀ earlier batch later,
        (plan.run settings environment).batches = earlier ++ batch :: later →
        ∀ turn ∈ batch.turns, turn.step.optional = false → ∀ resolution,
          (environment.resolve turn.step
            (plan.during environment earlier batch []).steps).value = .ok resolution →
          resolution.missing ≠ [] → brief.BlamesInputs) ∧
      (∀ step ∈ (plan.run settings environment).plan.steps, step.optional = false →
        ∀ seconds,
          (step.status = .failed ∧ step.error.map Answer.failure = some (.timedOut seconds)) ∨
            (∃ record ∈ report.executedSteps, record.stepId = step.id ∧
              record.error.map Answer.failure = some (.timedOut seconds)) →
          brief.BlamesTimeout) ∧
      report.Briefs (plan.run settings environment).plan brief := by
  refine ⟨_, (Plan.reported_of_run_ok outcome).brief.trans (if_pos asks), ?inputs, ?timeout,
    Plan.briefs_of_run_ok outcome⟩
  case inputs =>
    intro earlier batch later split turn member required resolution resolves missing
    obtain ⟨before, -, rfl⟩ := Plan.exists_take_of_batches_run split member
    have batchMember : batch ∈ (plan.run settings environment).batches := by
      rw [split]
      exact List.mem_append_right _ List.mem_cons_self
    have turnMember := List.mem_flatMap.2 ⟨batch, batchMember, member⟩
    rw [Turn.step_take] at resolves required
    obtain ⟨failed, optional, error⟩ := Turn.failed_of_missing resolves settings missing
    refine Replan.blamesInputs_brief (Plan.marked_mem_run turnMember (Turn.settled_take resolves))
      (Step.isBlockingFailure_iff.2 ⟨failed, optional.trans required⟩) error _
  case timeout =>
    rintro step member required seconds (⟨failed, error⟩ | ⟨record, recorded, named, error⟩)
    · exact Replan.blamesTimeout_brief member
        (Step.isBlockingFailure_iff.2 ⟨failed, required⟩) error _
    · have agrees := Plan.agrees_of_run_ok outcome recorded member named.symm
      obtain ⟨message, isError, -⟩ := Option.map_eq_some_iff.1 error
      rw [← agrees.error] at error
      exact Replan.blamesTimeout_brief member
        (Step.isBlockingFailure_iff.2 ⟨agrees.failed_of_error isError, required⟩) error _

/-- A meal with wine from an earlier plan, a recipe that nobody has, and a table to be booked. -/
def mealPlan : Plan :=
  { Plan.blank with
    id := "meal"
    steps :=
      [{ Step.new "wine" "cellar" .null with status := .succeeded },
        Step.new "cook" "oven" (.string "\x7b\x7brecipe.title\x7d\x7d"),
        Step.new "table" "phone" .null]
    metadata := { signals := some { errors := ["Permission DENIED by the host"] } } }

/-- Calls may take a second. -/
def mealSettings : Settings := { stepTimeoutSecs := 1 }

/-- A world in which nobody answers the phone in time. -/
def mealWorld : Environment :=
  Rehearsal.environment
    { context := {}
      scripts := [("table", [⟨5000, .success .null⟩])]
      cancelAt := none
      cuesResolver := false } "run" default

/-- The steps while the only batch of the meal is under way. -/
def mealSteps : List Step := (mealPlan.withStatus ["cook", "table"] .running).steps

/-- The only batch of the meal. -/
def mealBatch : Batch :=
  { startsAt := 0
    turns := (mealSteps.drop 1).map (Turn.take mealSettings mealWorld.toGateways mealSteps) }

/-- The recipe comes first, though the brief knows of the call and of the signals as well. -/
theorem failures_steer_strategy_meal :
    ∃ report brief, (mealPlan.run mealSettings mealWorld).outcome = .ok report ∧
      report.conclusion = .needsReplan ∧ report.brief = some brief ∧
      "permission_denied" ∈ brief.patterns ∧ brief.BlamesInputs ∧ brief.BlamesTimeout ∧
      brief.preserved = [⟨"wine", "cellar", .null⟩] ∧
      brief.failed =
        [⟨"cook", "oven", "missing inputs: recipe.title"⟩,
          ⟨"table", "phone", "timed out after 1s"⟩] := by
  have seen : (mealPlan.run mealSettings mealWorld).outcome.toOption.map (fun report =>
      (report.conclusion,
        report.brief.any fun brief => decide ("permission_denied" ∈ brief.patterns))) =
        some (.needsReplan, true) := by
    decide +kernel
  have batches : (mealPlan.run mealSettings mealWorld).batches = [] ++ mealBatch :: [] := by
    decide +kernel
  have steps : (mealPlan.run mealSettings mealWorld).plan.steps =
      [mealPlan.steps[0],
        { mealPlan.steps[1] with
          status := .failed, error := some "missing inputs: recipe.title" },
        { mealPlan.steps[2] with status := .failed, error := some "timed out after 1s" }] := by
    decide +kernel
  obtain ⟨report, outcome, view⟩ := Run.exists_of_seen seen
  obtain ⟨asks, denied⟩ := Prod.mk.inj view
  obtain ⟨brief, told, inputs, timeout, briefs⟩ := failures_steer_strategy outcome asks
  have cooks : Turn.take mealSettings mealWorld.toGateways mealSteps mealSteps[1] ∈
      mealBatch.turns := List.mem_cons_self
  have required : (Turn.take mealSettings mealWorld.toGateways mealSteps
      mealSteps[1]).step.optional = false := by
    rw [Turn.step_take]
    rfl
  have sees : (mealPlan.during mealWorld [] mealBatch []).steps = mealSteps := by decide +kernel
  have late := timeout
    { mealPlan.steps[2] with status := .failed, error := some "timed out after 1s" }
    (by rw [steps]; exact List.mem_of_mem_getLast? rfl) rfl 1 (.inl ⟨rfl, by decide⟩)
  rw [told] at denied
  refine ⟨report, brief, outcome, asks, told, of_decide_eq_true denied, ?_, late, ?_, ?_⟩
  · exact inputs [] mealBatch [] batches _ cooks required
      (Template.resolve mealSteps "" mealSteps[1].arguments) (by rw [sees, Turn.step_take]; rfl)
      (by decide +kernel)
  · rw [briefs.preserved, steps]
    rfl
  · rw [briefs.failed, steps]
    rfl

end PlanRunner
