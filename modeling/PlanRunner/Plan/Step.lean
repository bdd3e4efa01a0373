import PlanRunner.Json.Basic
import PlanRunner.Order.IdSet
import PlanRunner.Plan.Status

/-!
# Steps

A step of a plan calls a tool with arguments, once the steps that it depends on let it run.
-/

namespace PlanRunner

/-- The kind of action of a step that names none. -/
def defaultActionType : String := "tool_call"

/-- A step of a plan. -/
structure Step where
  id : String
  description : String
  actionType : String
  tool : String
  /-- The arguments as they are written; their texts may hold references to earlier results. -/
  arguments : Json
  dependencies : IdSet
  status : StepStatus
  /-- A failed optional step neither blocks its dependents nor fails the plan. -/
  optional : Bool
  /-- A hint of the author, which never changes what runs. -/
  parallel : Bool
  retryCount : UInt32
  /-- How often this step may be retried, in place of the limit for all steps. -/
  maxRetries : Option UInt32
  result : Option Json
  error : Option String
  deriving DecidableEq

namespace Step

/-- A step that has not run, described by its tool and its identifier. -/
def new (id tool : String) (arguments : Json) : Step :=
  { id, tool, arguments
    description := tool ++ " (" ++ id ++ ")"
    actionType := defaultActionType
    dependencies := ∅
    status := .pending
    optional := false
    parallel := false
    retryCount := 0
    maxRetries := none
    result := none
    error := none }

/-- A step without any content. -/
def blank : Step :=
  { new "" "" .null with description := "" }

instance : Inhabited Step := ⟨blank⟩

/-- A step that also depends on other steps. -/
def dependingOn (step : Step) (ids : List String) : Step :=
  { step with dependencies := step.dependencies.insertAll ids }

/-- How often a step may be retried, given the limit for steps that set none. -/
def retryBudget (step : Step) (defaultMaxRetries : UInt32) : UInt32 :=
  step.maxRetries.getD defaultMaxRetries

/-- Whether a step may be retried once more. -/
def hasRetryBudget (step : Step) (defaultMaxRetries : UInt32) : Bool :=
  step.retryCount < step.retryBudget defaultMaxRetries

/-- Whether the steps that depend on this one may treat it as done. -/
def satisfiesDependents (step : Step) : Bool :=
  match step.status with
  | .succeeded => true
  | .failed | .skipped => step.optional
  | .pending | .running => false

/-- Whether the step failed and counts against the plan. -/
def isBlockingFailure (step : Step) : Bool :=
  step.status = .failed && !step.optional

/-- The last step with an identifier, which is the only one in a valid plan. -/
def find? (steps : List Step) (id : String) : Option Step :=
  steps.reverse.find? (·.id == id)

end Step

end PlanRunner
