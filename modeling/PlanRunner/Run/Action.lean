import PlanRunner.Plan.Step

/-!
# Actions and answers

An action is what a step asks a tool to do, and the answer is what comes back.
-/

namespace PlanRunner

/-- What a tool is asked to do. -/
structure Action where
  stepId : String
  actionType : String
  tool : String
  arguments : Json
  deriving DecidableEq

/-- The action of a step with the given arguments. -/
def Action.ofStep (step : Step) (arguments : Json) : Action :=
  { stepId := step.id, actionType := step.actionType, tool := step.tool, arguments }

/-- What comes back from a tool. -/
inductive Answer where
  | success (content : Json)
  | failure (message : String)
  deriving DecidableEq

def Answer.isSuccess : Answer → Bool
  | .success _ => true
  | .failure _ => false

end PlanRunner
