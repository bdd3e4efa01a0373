import PlanRunner.Replan.Brief
import PlanRunner.Run.Turn
import PlanRunner.Time.Timestamp

/-!
# Reports

A report is what a run hands back to the planner, with a record of every step that had its turn.
Trackers are told about every such step as soon as its turn has ended.
-/

namespace PlanRunner

/-- What became of a step that had its turn. -/
structure StepRecord where
  stepId : String
  success : Bool
  result : Option Json
  error : Option String
  attempts : UInt32
  /-- How long the turn took, in milliseconds. -/
  duration : UInt64
  completedAt : Timestamp
  deriving DecidableEq

instance : Inhabited StepRecord := ⟨⟨"", false, none, none, 0, 0, default⟩⟩

/-- A time in milliseconds as a word of 64 bits, which is the greatest one for any longer time. -/
def milliseconds (time : Nat) : UInt64 :=
  UInt64.ofNat (min time 0xFFFFFFFFFFFFFFFF)

/-- The record of a turn that starts at a point in time, unless the turn was broken off. -/
def Turn.record? (turn : Turn) (start : Timestamp) : Option StepRecord :=
  match turn.ending with
  | .broken _ => none
  | .settled answer _ attempts =>
      let (result, error) :=
        match answer with
        | .success content => (some content, none)
        | .failure message => (none, some message)
      some
        { stepId := turn.step.id, success := answer.isSuccess, result, error, attempts
          duration := milliseconds turn.elapsed
          completedAt := start.after turn.elapsed }

/-- What a tracker is told about a step that had its turn. -/
structure Operation where
  planId : String
  stepId : String
  tool : String
  success : Bool
  attempts : UInt32
  time : Nat
  deriving DecidableEq, Repr

/-- What trackers are told about a turn of a batch that starts at a time, unless it broke off. -/
def Turn.operation? (planId : String) (startsAt : Nat) (turn : Turn) : Option Operation :=
  match turn.ending with
  | .broken _ => none
  | .settled answer _ attempts =>
      some
        { planId, stepId := turn.step.id, tool := turn.step.tool, success := answer.isSuccess
          attempts, time := startsAt + turn.elapsed }

/-- What a run hands back. -/
structure Report where
  conclusion : Conclusion
  runId : String
  planId : String
  strategy : String
  totalSteps : UInt64
  successfulSteps : List String
  failedSteps : List String
  skippedSteps : List String
  /-- In the order in which the turns ended. -/
  executedSteps : List StepRecord
  /-- How long the run took, in milliseconds. -/
  executionTime : UInt64
  feedback : String
  brief : Option Replan.Brief
  signals : Option Signals
  hasSignalsProblems : Bool
  replanBudget : ReplanBudget
  cancelled : Bool
  deriving DecidableEq

namespace Report

def isComplete (report : Report) : Bool :=
  report.conclusion = .complete

/-- Whether the plan needs to be replaced. -/
def needsReplan (report : Report) : Bool :=
  report.conclusion = .needsReplan

/-- Whether nothing can run any more. -/
def isDeadlock (report : Report) : Bool :=
  report.conclusion = .deadlock

/-- Whether the run is complete and leaves no problem behind. -/
def isClean (report : Report) : Bool :=
  report.isComplete && !report.hasSignalsProblems

/-- The first record of a step. -/
def record? (report : Report) (stepId : String) : Option StepRecord :=
  report.executedSteps.find? (·.stepId == stepId)

end Report

end PlanRunner
