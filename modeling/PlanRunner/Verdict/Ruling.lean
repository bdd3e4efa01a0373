import PlanRunner.Verdict.Tally

/-!
# Rulings

A ruling takes the conclusion that the steps suggest, and weighs it against the signals of the plan
and the replan budget: signals turn a complete run into a replan, and a replan without budget is
given up as complete. A plan may be sent back for replanning only so often.
-/

namespace PlanRunner

/-! ## Replan budgets -/

/-- How many replans have been used, out of how many. -/
structure ReplanBudget where
  used : UInt32
  limit : UInt32
  deriving DecidableEq, Repr, Inhabited

namespace ReplanBudget

/-- Whether no replan is left. -/
def isExhausted (budget : ReplanBudget) : Bool :=
  budget.limit ≤ budget.used

/-- How many replans are left. -/
def remaining (budget : ReplanBudget) : UInt32 :=
  if budget.isExhausted then 0 else budget.limit - budget.used

/-- The budget after one more replan, if one is left. -/
def consume? (budget : ReplanBudget) : Option ReplanBudget :=
  if budget.isExhausted then none else some { budget with used := budget.used + 1 }

end ReplanBudget

/-! ## Rulings -/

/-- What is ruled about a run. -/
structure Ruling where
  conclusion : Conclusion
  feedback : String
  /-- The signals report problems, or a replan was refused. -/
  hasProblems : Bool
  budget : ReplanBudget
  /-- The signals alone asked for the replan. -/
  signalDriven : Bool
  /-- A replan was refused. -/
  limitReached : Bool
  deriving DecidableEq, Repr

def Signals.reportProblems (signals : Option Signals) : Bool :=
  signals.any Signals.hasProblems

/-- The summary of signals, which is empty if there are none. -/
def Signals.summaryOf (signals : Option Signals) : String :=
  (signals.map Signals.summary).getD ""

namespace Ruling

/-- The words that the feedback of a refused replan starts with. -/
def limitFeedback : String := "Replan limit reached"

/-- A conclusion and its feedback in the light of the signals. -/
def heed (signals : Option Signals) (conclusion : Conclusion) (feedback : String) :
    Conclusion × String :=
  if Signals.reportProblems signals then
    match conclusion with
    | .complete =>
        (.needsReplan,
          "All steps completed but plan signals report unresolved problems: " ++
            Signals.summaryOf signals)
    | .needsReplan => (.needsReplan, feedback ++ "; signals: " ++ Signals.summaryOf signals)
    | .deadlock => (.deadlock, feedback)
  else (conclusion, feedback)

/-- The feedback of a refused replan. -/
def refusal (budget : ReplanBudget) (feedback : String) : String :=
  limitFeedback ++ " (" ++ toString budget.used ++ "/" ++ toString budget.limit ++
    "); stopping with unresolved problems. " ++ feedback

def of (tentative : Conclusion) (feedback : String) (signals : Option Signals)
    (budget : ReplanBudget) : Ruling :=
  let hasProblems := Signals.reportProblems signals
  let signalDriven := hasProblems && tentative = .complete
  match heed signals tentative feedback with
  | (.needsReplan, feedback) =>
      match budget.consume? with
      | some budget =>
          { conclusion := .needsReplan, feedback, hasProblems, budget, signalDriven
            limitReached := false }
      | none =>
          { conclusion := .complete, feedback := refusal budget feedback, hasProblems := true
            budget, signalDriven, limitReached := true }
  | (conclusion, feedback) =>
      { conclusion, feedback, hasProblems, budget, signalDriven, limitReached := false }

end Ruling

end PlanRunner
