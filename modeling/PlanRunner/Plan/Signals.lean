import PlanRunner.Text.Blank

/-!
# Signals

A planner may attach signals to a plan: hints that the plan falls short of its goal even when every
step succeeds.
-/

namespace PlanRunner

/-- Hints that a plan falls short of its goal. -/
structure Signals where
  needs : List String := []
  suggestedNextStep : Option String := none
  errors : List String := []
  noDiscoveryPath : List String := []
  deriving DecidableEq, Repr, Inhabited

namespace Signals

/-- The suggested next step, unless it is blank. -/
def suggestion? (signals : Signals) : Option String :=
  signals.suggestedNextStep.filter fun step => !Text.isBlankText step

/-- Whether any hint is given. -/
def hasProblems (signals : Signals) : Bool :=
  !signals.needs.isEmpty || signals.suggestion?.isSome || !signals.errors.isEmpty ||
    !signals.noDiscoveryPath.isEmpty

/-- A list in square brackets after a label, unless it is empty. -/
def listPart (label : String) (entries : List String) : List String :=
  if entries.isEmpty then [] else [label ++ " [" ++ String.intercalate ", " entries ++ "]"]

/-- The parts of the summary, in order. -/
def parts (signals : Signals) : List String :=
  listPart "needs" signals.needs ++
    (signals.suggestion?.map fun step => "suggested next step '" ++ step ++ "'").toList ++
    listPart "errors" signals.errors ++
    listPart "no discovery path for" signals.noDiscoveryPath

/-- All hints in one line. -/
def summary (signals : Signals) : String :=
  String.intercalate "; " signals.parts

end Signals

end PlanRunner
