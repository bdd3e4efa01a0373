/-!
# Statuses

What has become of a step, and what has become of a plan.
-/

namespace PlanRunner

/-- What has become of a step. -/
inductive StepStatus where
  | pending
  | running
  | succeeded
  | failed
  | skipped
  deriving DecidableEq, Repr, Inhabited

namespace StepStatus

def name : StepStatus → String
  | .pending => "pending"
  | .running => "running"
  | .succeeded => "succeeded"
  | .failed => "failed"
  | .skipped => "skipped"

/-- All statuses, from the first to the last of a step's life. -/
def all : List StepStatus :=
  [.pending, .running, .succeeded, .failed, .skipped]

/-- Whether a step with this status is over. -/
def isTerminal : StepStatus → Bool
  | .succeeded | .failed | .skipped => true
  | .pending | .running => false

end StepStatus

/-- What has become of a plan. -/
inductive PlanStatus where
  | pending
  | running
  | completed
  | needsReplan
  | deadlocked
  deriving DecidableEq, Repr, Inhabited

namespace PlanStatus

def name : PlanStatus → String
  | .pending => "pending"
  | .running => "running"
  | .completed => "completed"
  | .needsReplan => "needs_replan"
  | .deadlocked => "deadlocked"

def all : List PlanStatus :=
  [.pending, .running, .completed, .needsReplan, .deadlocked]

end PlanStatus

end PlanRunner
