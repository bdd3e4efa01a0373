import PlanRunner.Graph.Cycle
import PlanRunner.Graph.Dependents

/-!
# Tallies

A run ends in one of three ways. A tally holds what there is to know about the steps of a plan for
the conclusion of a run, and the policy draws the conclusion: a plan is complete when nothing
failed, was skipped or is left; it is deadlocked when something was skipped and no failed step can
lead anywhere; in any other case it needs a new plan.
-/

namespace PlanRunner

/-! ## Conclusions -/

/-- How a run ends. -/
inductive Conclusion where
  | complete
  | needsReplan
  | deadlock
  deriving DecidableEq, Repr, Inhabited

namespace Conclusion

def name : Conclusion → String
  | .complete => "execution_complete"
  | .needsReplan => "needs_replan"
  | .deadlock => "deadlock"

def all : List Conclusion :=
  [.complete, .needsReplan, .deadlock]

end Conclusion

/-! ## What has become of the steps -/

/-- What has become of the steps of a plan. -/
structure Tally where
  total : Nat := 0
  succeeded : List String := []
  /-- The failed steps that are not optional. -/
  blockingFailures : List String := []
  optionalFailures : List String := []
  skipped : List String := []
  pending : List String := []
  /-- Some failed step may be retried, or a step that waits for it was not skipped. -/
  viableContinuation : Bool := false
  cycle : Option (List String) := none
  cancelled : Bool := false
  deriving DecidableEq, Repr, Inhabited

namespace Step

/-- Whether a step failed without counting against the plan. -/
def isOptionalFailure (step : Step) : Bool :=
  step.status = .failed && step.optional

/-- Whether a step is neither over nor given up. -/
def isLeft (step : Step) : Bool :=
  step.status = .pending || step.status = .running

end Step

namespace Plan

/-- The identifiers of the steps with a property, in plan order. -/
def idsWhere (plan : Plan) (property : Step → Bool) : List String :=
  (plan.steps.filter property).map (·.id)

/-- The tally of a plan. A cycle is looked for only where no failure explains the skipped steps. -/
def tally (plan : Plan) (defaultMaxRetries : UInt32) (cancelled : Bool) : Tally :=
  let blockingFailures := plan.idsWhere Step.isBlockingFailure
  let skipped := plan.idsWithStatus .skipped
  { total := plan.steps.length
    succeeded := plan.idsWithStatus .succeeded
    blockingFailures
    optionalFailures := plan.idsWhere Step.isOptionalFailure
    skipped
    pending := plan.idsWhere Step.isLeft
    viableContinuation := plan.hasViableContinuation defaultMaxRetries
    cycle :=
      if !skipped.isEmpty && blockingFailures.isEmpty then plan.graph.findCycle else none
    cancelled }

end Plan

/-! ## The policy -/

namespace Tally

/-- Whether a step failed that is not optional. -/
def hasBlockingFailures (tally : Tally) : Bool :=
  !tally.blockingFailures.isEmpty

/-- The policy that tells the conclusions apart. -/
def conclusion (tally : Tally) : Conclusion :=
  if !tally.hasBlockingFailures && tally.skipped.isEmpty && tally.pending.isEmpty then .complete
  else if !tally.skipped.isEmpty && !tally.viableContinuation then .deadlock
  else .needsReplan

/-- Identifiers in one line. -/
def listed (ids : List String) : String :=
  String.intercalate ", " ids

/-- What keeps the skipped steps of a deadlock from running. -/
def deadlockCause (tally : Tally) : String :=
  if tally.hasBlockingFailures then "failed step(s) " ++ listed tally.blockingFailures
  else
    match tally.cycle with
    | some cycle => "dependency cycle " ++ String.intercalate " -> " cycle
    | none => "unsatisfiable dependencies"

/-- What to tell the planner about a conclusion. -/
def feedback (tally : Tally) : Conclusion → String
  | .complete =>
      "Executed " ++ toString tally.succeeded.length ++ " of " ++ toString tally.total ++
        " steps successfully" ++
        (if tally.optionalFailures.isEmpty then ""
        else
          " (" ++ toString tally.optionalFailures.length ++ " optional step(s) failed: " ++
            listed tally.optionalFailures ++ ")")
  | .deadlock =>
      "Plan deadlock: step(s) " ++ listed tally.skipped ++ " can never run because of " ++
        tally.deadlockCause
  | .needsReplan =>
      if tally.cancelled && !tally.pending.isEmpty then
        "Execution cancelled with " ++ toString tally.pending.length ++
          " step(s) still pending (" ++ listed tally.pending ++ "); needs replan"
      else
        "Execution needs replan: " ++ toString tally.blockingFailures.length ++
          " step(s) failed (" ++ listed tally.blockingFailures ++ "); " ++
          toString tally.succeeded.length ++ " successful result(s) preserved"

end Tally

end PlanRunner
