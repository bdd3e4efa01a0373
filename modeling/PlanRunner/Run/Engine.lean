import PlanRunner.Order.Ranked
import PlanRunner.Plan.Readiness
import PlanRunner.Run.Report
import PlanRunner.Verdict.Tally

/-!
# Runs

A run takes the ready steps of a plan in batches until none is ready. The steps of a batch have
their turns at the same time: all of them see the steps as they are when the batch starts, and their
outcomes are written back in the order in which the turns end. Steps that can never run are skipped
at last, and a ruling tells how the run ended.
-/

namespace PlanRunner

/-- The turns of steps that run at the same time, in plan order. -/
structure Batch where
  startsAt : Nat
  turns : List Turn
  deriving DecidableEq

/-- How long a batch takes: as long as the longest of its turns. -/
def Batch.elapsed (batch : Batch) : Nat :=
  batch.turns.foldl (fun longest turn => max longest turn.elapsed) 0

/-- The world that a run meets. -/
structure Environment extends Gateways where
  runId : String
  startedAt : Timestamp
  /-- Of the turns of a batch, those with a lower rank end first. -/
  rank : Turn → Nat
  /-- Whether the run has been cancelled by the end of some batches. -/
  cancelled : List Batch → Bool

/-- Why a run gives no report. -/
inductive RunError where
  | plan (error : PlanError)
  | resolver (step message : String)
  deriving DecidableEq, Repr

/-- The text for why a run gives no report. -/
def RunError.message : RunError → String
  | .plan error => "plan: " ++ error.message
  | .resolver step message =>
      "gateway: argument resolver failed for step " ++ step ++ ": " ++ message

/-- How far a run has come. -/
structure Progress where
  plan : Plan
  batches : List Batch
  records : List StepRecord
  /-- What the trackers have been told. -/
  operations : List Operation
  /-- The milliseconds since the start of the run. -/
  now : Nat

/-- Why a run takes no further batch. -/
inductive Stop where
  /-- No step is ready. -/
  | drained
  /-- The run was cancelled while so many steps were ready. -/
  | cancelled (ready : Nat)
  /-- A resolver broke down. -/
  | broken (error : RunError)
  deriving DecidableEq, Repr

def Stop.isCancelled : Stop → Bool
  | .cancelled _ => true
  | _ => false

/-- The turns of a batch in the order in which they end; of equal ranks in plan order. -/
def Environment.ended (environment : Environment) (turns : List Turn) : List Turn :=
  Ranked.sort environment.rank turns

namespace Turn

/-- Writes the outcome of a turn into a plan. -/
def apply (plan : Plan) (turn : Turn) : Plan :=
  plan.updateStep turn.step.id (mark turn.ending)

/-- The error of a turn that was broken off. -/
def error? (turn : Turn) : Option RunError :=
  match turn.ending with
  | .broken message => some (.resolver turn.step.id message)
  | .settled _ _ _ => none

end Turn

/-- A plan in which the steps with some identifiers have a status. -/
def Plan.withStatus (plan : Plan) (ids : List String) (status : StepStatus) : Plan :=
  { plan with
    steps := plan.steps.map fun step => if step.id ∈ ids then { step with status } else step }

/-- The identifiers out of the ready ones that a batch takes. -/
def Settings.batch (settings : Settings) (ready : List String) : List String :=
  match settings.batchCap? with
  | some cap => ready.take cap.toNat
  | none => ready

namespace Progress

/-- The turns of the steps with some identifiers, which all see the same steps. -/
def turns (settings : Settings) (environment : Environment) (plan : Plan) (ids : List String) :
    List Turn :=
  (ids.filterMap (Step.find? plan.steps)).map
    (Turn.take settings environment.toGateways plan.steps)

/-- Runs a batch, and tells the first error that it meets. -/
def runBatch (settings : Settings) (environment : Environment) (progress : Progress)
    (ids : List String) : Progress × Option RunError :=
  let started := progress.plan.withStatus ids .running
  let batch : Batch :=
    { startsAt := progress.now, turns := turns settings environment started ids }
  let ended := environment.ended batch.turns
  let start := environment.startedAt.after progress.now
  ({ plan := ended.foldl Turn.apply started
     batches := progress.batches ++ [batch]
     records := progress.records ++ ended.filterMap (·.record? start)
     operations :=
       progress.operations ++ ended.filterMap (·.operation? started.id progress.now)
     now := progress.now + batch.elapsed },
    ended.findSome? Turn.error?)

/-- Runs batches, as many as the bound allows, and tells why it takes no more. -/
def runBatches (settings : Settings) (environment : Environment) : Nat → Progress → Progress × Stop
  | 0, progress => (progress, .drained)
  | bound + 1, progress =>
      match Step.ready progress.plan.steps with
      | [] => (progress, .drained)
      | ready =>
          if environment.cancelled progress.batches then (progress, .cancelled ready.length)
          else
            match progress.runBatch settings environment (settings.batch ready) with
            | (progress, some error) => (progress, .broken error)
            | (progress, none) => runBatches settings environment bound progress

end Progress

namespace Plan

/-- A plan in which no step is running: those left behind by an earlier run are pending again. -/
def reset (plan : Plan) : Plan :=
  { plan with
    steps := plan.steps.map fun step =>
      if step.status = .running then { step with status := .pending } else step }

/-- A plan whose steps that can never run are skipped. -/
def skipUnreachable (plan : Plan) : Plan :=
  plan.withStatus (Step.unreachable plan.steps) .skipped

/-- The ruling on a plan after its batches. -/
def ruling (plan : Plan) (settings : Settings) (cancelled : Bool) : Ruling :=
  let tally := plan.tally settings.maxRetries cancelled
  Ruling.of tally.conclusion (tally.feedback tally.conclusion) plan.metadata.signals
    ⟨plan.metadata.replansCount, settings.maxReplansPerPlan⟩

/-- The status of a plan after a conclusion. -/
def statusAfter : Conclusion → PlanStatus
  | .complete => .completed
  | .needsReplan => .needsReplan
  | .deadlock => .deadlocked

def rule (plan : Plan) (ruling : Ruling) : Plan :=
  { plan with
    status := statusAfter ruling.conclusion
    metadata := { plan.metadata with replansCount := ruling.budget.used } }

end Plan

/-- What happened in a run, from the plan as it was given to the ruling, if there was one. -/
structure History where
  start : Plan
  batches : List Batch
  /-- What the trackers were told, in the order in which the turns ended. -/
  operations : List Operation
  stop : Stop
  skipped : List String
  ruling : Option Ruling
  deriving DecidableEq

/-- A run: what it hands back, the plan after it, and its history if the plan was valid. -/
structure Run where
  outcome : Except RunError Report
  plan : Plan
  history : Option History

namespace Run

def report (environment : Environment) (progress : Progress) (plan : Plan) (ruling : Ruling)
    (cancelled : Bool) : Report :=
  { conclusion := ruling.conclusion
    runId := environment.runId
    planId := plan.id
    strategy := plan.strategy
    totalSteps := UInt64.ofNat plan.steps.length
    successfulSteps := plan.idsWithStatus .succeeded
    failedSteps := plan.idsWithStatus .failed
    skippedSteps := plan.idsWithStatus .skipped
    executedSteps := progress.records
    executionTime := milliseconds progress.now
    feedback := ruling.feedback
    brief :=
      if ruling.conclusion = .needsReplan then some (Replan.brief plan cancelled) else none
    signals := plan.metadata.signals
    hasSignalsProblems := ruling.hasProblems
    replanBudget := ruling.budget
    cancelled }

/-- Ends a run that takes no further batch. -/
def finish (settings : Settings) (environment : Environment) (start : Plan)
    (progress : Progress) (stop : Stop) : Run :=
  match stop with
  | .broken error =>
      { outcome := .error error
        plan := progress.plan
        history :=
          some
            { start, batches := progress.batches, operations := progress.operations, stop
              skipped := [], ruling := none } }
  | _ =>
      let cancelled := stop.isCancelled
      let skipped := Step.unreachable progress.plan.steps
      let plan := progress.plan.skipUnreachable
      let ruling := plan.ruling settings cancelled
      let plan := plan.rule ruling
      { outcome := .ok (report environment progress plan ruling cancelled)
        plan
        history :=
          some
            { start, batches := progress.batches, operations := progress.operations, stop, skipped
              ruling := some ruling } }

end Run

/-- Runs a plan. A plan that is not valid stays as it is. -/
def Plan.run (settings : Settings) (environment : Environment) (plan : Plan) : Run :=
  match plan.validate with
  | .error error => { outcome := .error (.plan error), plan, history := none }
  | .ok () =>
      let started := { plan.reset with status := .running }
      let (progress, stop) :=
        Progress.runBatches settings environment started.steps.length
          { plan := started, batches := [], records := [], operations := [], now := 0 }
      Run.finish settings environment plan progress stop

end PlanRunner
