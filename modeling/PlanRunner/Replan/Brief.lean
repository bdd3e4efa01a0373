import PlanRunner.Plan.Basic
import PlanRunner.Replan.Patterns
import PlanRunner.Verdict.Ruling

/-!
# Briefs

A brief tells the planner what a new plan can build on and what went wrong.
-/

namespace PlanRunner.Replan

/-- A step whose result a new plan may use. -/
structure PreservedStep where
  id : String
  tool : String
  result : Json
  deriving DecidableEq

/-- A step that failed and counts against the plan. -/
structure FailedStep where
  id : String
  tool : String
  error : String
  deriving DecidableEq, Repr

/-- What a planner needs to know for a new plan. -/
structure Brief where
  preserved : List PreservedStep := []
  patterns : List String := []
  primaryCause : String := ""
  suggestedStrategy : String := ""
  successfulIds : List String := []
  failed : List FailedStep := []
  deriving DecidableEq

/-- The steps that succeeded, in plan order. -/
def preservedSteps (plan : Plan) : List PreservedStep :=
  (plan.steps.filter (·.status = .succeeded)).map fun step =>
    { id := step.id, tool := step.tool, result := step.result.getD .null }

/-- The steps that failed without being optional, in plan order. -/
def failedSteps (plan : Plan) : List FailedStep :=
  (plan.steps.filter Step.isBlockingFailure).map fun step =>
    { id := step.id, tool := step.tool, error := step.error.getD "unknown error" }

def suggestStrategy (patterns : List String) (signalsOnly : Bool) : String :=
  if "missing_inputs" ∈ patterns then "gather_missing_inputs"
  else if "timeout" ∈ patterns ∨ "network_error" ∈ patterns ∨ "rate_limited" ∈ patterns then
    "retry_with_backoff"
  else if "invalid_input" ∈ patterns then "correct_arguments"
  else if "not_found" ∈ patterns ∨ "permission_denied" ∈ patterns then "use_alternative_tool"
  else if signalsOnly then "address_signals"
  else "revise_failed_steps"

/-- The main reason for a new plan. -/
def primaryCause (failed : List FailedStep) (signals : Option Signals) (cancelled : Bool) :
    String :=
  match failed with
  | first :: _ => first.id ++ ": " ++ first.error
  | [] =>
      if cancelled then "cancelled"
      else if Signals.reportProblems signals then "signals: " ++ Signals.summaryOf signals
      else "unknown"

/-- The messages that the patterns are taken from: those of the failed steps, then the signals'. -/
def failureMessages (failed : List FailedStep) (signals : Option Signals) : List String :=
  failed.map (·.error) ++ (signals.map (·.errors)).getD []

def brief (plan : Plan) (cancelled : Bool) : Brief :=
  let preserved := preservedSteps plan
  let failed := failedSteps plan
  let signals := plan.metadata.signals
  let patterns := patterns (failureMessages failed signals)
  { preserved, patterns, failed
    primaryCause := primaryCause failed signals cancelled
    suggestedStrategy :=
      suggestStrategy patterns (failed.isEmpty && Signals.reportProblems signals)
    successfulIds := preserved.map (·.id) }

end PlanRunner.Replan
