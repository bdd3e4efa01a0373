import PlanRunner.Run.Report
import PlanRunner.Wire.Plan

/-!
# Written reports

How reports, their records, budgets and briefs are read from documents and written as JSON.
-/

namespace PlanRunner

def Conclusion.choice : Choice Conclusion :=
  Conclusion.all.map fun conclusion => (conclusion.name, conclusion)

def Conclusion.read : Reader Conclusion :=
  Conclusion.choice.read

namespace ReplanBudget

/-- A budget is written with both of its numbers. -/
def record : Record ReplanBudget where
  name := "struct ReplanBudget"
  draft := ⟨0, 0⟩
  fields :=
    [ .of "used" .required Reader.word32 fun budget used => { budget with used },
      .of "limit" .required Reader.word32 fun budget limit => { budget with limit } ]

def read : Reader ReplanBudget :=
  record.read

def toJson (budget : ReplanBudget) : Json :=
  .object [("used", Writer.word32 budget.used), ("limit", Writer.word32 budget.limit)]

end ReplanBudget

/-- Reads a point in time. -/
def Timestamp.read : Reader Timestamp := fun _ document =>
  match document with
  | .string text =>
      match parse text with
      | .ok instant => .ok instant
      | .error error => .error (.invalidTime error)
  | other => Reader.mismatch "an RFC 3339 formatted date and time string" other

namespace StepRecord

/-- The result and the error of a record may be left out. -/
def record : Record StepRecord where
  name := "struct ExecutedStepRecord"
  draft := default
  fields :=
    [ .of "step_id" .required Reader.text fun record stepId => { record with stepId },
      .of "success" .required Reader.flag fun record success => { record with success },
      .of "result" .nullable (Reader.optional Reader.free) fun record result =>
        { record with result },
      .of "error" .nullable (Reader.optional Reader.text) fun record error =>
        { record with error },
      .of "attempts" .required Reader.word32 fun record attempts => { record with attempts },
      .of "duration" .required Reader.word64 fun record duration => { record with duration },
      .of "completed_at" .required Timestamp.read fun record completedAt =>
        { record with completedAt } ]

def read : Reader StepRecord :=
  record.read

def toJson (record : StepRecord) : Json :=
  .object
    [ ("step_id", .string record.stepId),
      ("success", .boolean record.success),
      ("result", Writer.optional (fun value => value) record.result),
      ("error", Writer.optional .string record.error),
      ("attempts", Writer.word32 record.attempts),
      ("duration", Writer.word64 record.duration),
      ("completed_at", .string record.completedAt.render) ]

end StepRecord

namespace Replan

namespace PreservedStep

/-- A preserved step is written with all of its fields. -/
def record : Record PreservedStep where
  name := "struct PreservedStep"
  draft := ⟨"", "", .null⟩
  fields :=
    [ .of "step_id" .required Reader.text fun step id => { step with id },
      .of "tool" .required Reader.text fun step tool => { step with tool },
      .of "result" .required Reader.free fun step result => { step with result } ]

/-- Writes a preserved step. -/
def toJson (step : PreservedStep) : Json :=
  .object [("step_id", .string step.id), ("tool", .string step.tool), ("result", step.result)]

end PreservedStep

namespace FailedStep

/-- A failed step is written with all of its fields. -/
def record : Record FailedStep where
  name := "struct FailedStepSummary"
  draft := ⟨"", "", ""⟩
  fields :=
    [ .of "step_id" .required Reader.text fun step id => { step with id },
      .of "tool" .required Reader.text fun step tool => { step with tool },
      .of "error" .required Reader.text fun step error => { step with error } ]

/-- Writes a failed step. -/
def toJson (step : FailedStep) : Json :=
  .object
    [("step_id", .string step.id), ("tool", .string step.tool), ("error", .string step.error)]

end FailedStep

namespace Brief

/-- The scope of a brief is written as a record of its own. -/
def scopeRecord : Record (List String × List FailedStep) where
  name := "struct ReplanScope"
  draft := ([], [])
  fields :=
    [ .of "successful_steps" .required (Reader.list Reader.text) fun scope ids =>
        (ids, scope.2),
      .of "failed_steps" .required (Reader.list FailedStep.record.read) fun scope failed =>
        (scope.1, failed) ]

/-- A brief is written with all of its fields. -/
def record : Record Brief where
  name := "struct ReplanContext"
  draft := {}
  fields :=
    [ .of "preserved_steps" .required (Reader.list PreservedStep.record.read)
        fun brief preserved => { brief with preserved },
      .of "failure_patterns" .required (Reader.list Reader.text) fun brief patterns =>
        { brief with patterns },
      .of "primary_cause" .required Reader.text fun brief primaryCause =>
        { brief with primaryCause },
      .of "suggested_strategy" .required Reader.text fun brief suggestedStrategy =>
        { brief with suggestedStrategy },
      .of "context_for_replan" .required scopeRecord.read fun brief scope =>
        { brief with successfulIds := scope.1, failed := scope.2 } ]

def read : Reader Brief :=
  record.read

def toJson (brief : Brief) : Json :=
  .object
    [ ("preserved_steps", Writer.list PreservedStep.toJson brief.preserved),
      ("failure_patterns", Writer.texts brief.patterns),
      ("primary_cause", .string brief.primaryCause),
      ("suggested_strategy", .string brief.suggestedStrategy),
      ("context_for_replan",
        .object
          [ ("successful_steps", Writer.texts brief.successfulIds),
            ("failed_steps", Writer.list FailedStep.toJson brief.failed) ]) ]

end Brief

end Replan

namespace Report

/-- A report without any content. -/
def blank : Report :=
  { conclusion := .complete, runId := "", planId := "", strategy := "", totalSteps := 0
    successfulSteps := [], failedSteps := [], skippedSteps := [], executedSteps := []
    executionTime := 0, feedback := "", brief := none, signals := none
    hasSignalsProblems := false, replanBudget := ⟨0, 0⟩, cancelled := false }

/-- The brief and the signals of a report may be left out. -/
def record : Record Report where
  name := "struct ExecutionResult"
  draft := blank
  fields :=
    [ .of "type" .required Conclusion.read fun report conclusion => { report with conclusion },
      .of "run_id" .required Reader.text fun report runId => { report with runId },
      .of "plan_id" .required Reader.text fun report planId => { report with planId },
      .of "strategy" .required Reader.text fun report strategy => { report with strategy },
      .of "total_steps" .required Reader.size fun report totalSteps =>
        { report with totalSteps },
      .of "successful_steps" .required (Reader.list Reader.text) fun report successfulSteps =>
        { report with successfulSteps },
      .of "failed_steps" .required (Reader.list Reader.text) fun report failedSteps =>
        { report with failedSteps },
      .of "skipped_steps" .required (Reader.list Reader.text) fun report skippedSteps =>
        { report with skippedSteps },
      .of "executed_steps" .required (Reader.list StepRecord.read) fun report executedSteps =>
        { report with executedSteps },
      .of "execution_time" .required Reader.word64 fun report executionTime =>
        { report with executionTime },
      .of "feedback" .required Reader.text fun report feedback => { report with feedback },
      .of "replan_context" .nullable (Reader.optional Replan.Brief.read) fun report brief =>
        { report with brief },
      .of "signals" .nullable (Reader.optional Signals.read) fun report signals =>
        { report with signals },
      .of "has_signals_problems" .required Reader.flag fun report hasSignalsProblems =>
        { report with hasSignalsProblems },
      .of "replan_budget" .required ReplanBudget.read fun report replanBudget =>
        { report with replanBudget },
      .of "cancelled" .required Reader.flag fun report cancelled =>
        { report with cancelled } ]

def read : Reader Report :=
  record.read

def toJson (report : Report) : Json :=
  .object
    [ ("type", .string report.conclusion.name),
      ("run_id", .string report.runId),
      ("plan_id", .string report.planId),
      ("strategy", .string report.strategy),
      ("total_steps", Writer.word64 report.totalSteps),
      ("successful_steps", Writer.texts report.successfulSteps),
      ("failed_steps", Writer.texts report.failedSteps),
      ("skipped_steps", Writer.texts report.skippedSteps),
      ("executed_steps", Writer.list StepRecord.toJson report.executedSteps),
      ("execution_time", Writer.word64 report.executionTime),
      ("feedback", .string report.feedback),
      ("replan_context", Writer.optional Replan.Brief.toJson report.brief),
      ("signals", Writer.optional Signals.toJson report.signals),
      ("has_signals_problems", .boolean report.hasSignalsProblems),
      ("replan_budget", report.replanBudget.toJson),
      ("cancelled", .boolean report.cancelled) ]

end Report

end PlanRunner
