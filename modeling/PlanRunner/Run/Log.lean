import PlanRunner.Graph.Layers
import PlanRunner.Run.Timeline
import PlanRunner.Text.Quoted
import PlanRunner.Wire.Writer

/-!
# Logs

The log of a run, which follows from its history.
-/

namespace PlanRunner

/-- How important an entry of the log is. -/
inductive LogLevel where
  | debug
  | info
  | warn
  deriving DecidableEq, Repr

def LogLevel.name : LogLevel → String
  | .debug => "DEBUG"
  | .info => "INFO"
  | .warn => "WARN"

/-- An entry of the log. -/
structure LogEntry where
  level : LogLevel
  message : String
  fields : List (String × Json)
  deriving DecidableEq

namespace LogEntry

def count (value : Nat) : Json :=
  Writer.word64 (UInt64.ofNat value)

/-- A step that an earlier run left behind is pending again. -/
def stale (planId stepId : String) : LogEntry :=
  ⟨.debug, "resetting stale running step",
    [("plan_id", .string planId), ("step_id", .string stepId)]⟩

/-- A step is said to run beside others, but there are none. -/
def lonely (stepId : String) : LogEntry :=
  ⟨.debug, "step hinted parallel but has no independent peers", [("step_id", .string stepId)]⟩

/-- A step will run beside others, though nobody says so. -/
def accompanied (stepId : String) (peers : Nat) : LogEntry :=
  ⟨.debug, "step will run alongside peers",
    [("step_id", .string stepId), ("peers", count peers)]⟩

def started (settings : Settings) (plan : Plan) : LogEntry :=
  ⟨.info, "plan run started",
    [ ("plan_id", .string plan.id), ("strategy", .string plan.strategy),
      ("steps", count plan.steps.length), ("rewoo", .boolean settings.enableRewoo) ]⟩

def batch (planId : String) (ids : List String) : LogEntry :=
  ⟨.debug, "ready batch",
    [("plan_id", .string planId), ("batch", .string (Text.quotedList ids))]⟩

/-- A call will be repeated. -/
def retry (step : Step) (attempt : Nat) (error : String) (delay : UInt64) : LogEntry :=
  ⟨.warn, "retrying step after action error",
    [ ("step_id", .string step.id), ("tool", .string step.tool), ("attempt", count attempt),
      ("error", .string error), ("retry_in_ms", Writer.word64 delay) ]⟩

def succeeded (planId : String) (step : Step) : LogEntry :=
  ⟨.info, "step succeeded",
    [("plan_id", .string planId), ("step_id", .string step.id), ("tool", .string step.tool)]⟩

def failed (planId : String) (step : Step) (error : String) : LogEntry :=
  ⟨.warn, "step failed",
    [ ("plan_id", .string planId), ("step_id", .string step.id), ("tool", .string step.tool),
      ("optional", .boolean step.optional), ("error", .string error) ]⟩

/-- An outcome is recorded. -/
def operation (operation : Operation) : LogEntry :=
  ⟨.info, "operation.step",
    [ ("plan_id", .string operation.planId), ("step_id", .string operation.stepId),
      ("tool", .string operation.tool), ("success", .boolean operation.success),
      ("attempts", Writer.word32 operation.attempts) ]⟩

/-- The run is cancelled while so many steps are ready. -/
def cancelled (planId : String) (ready : Nat) : LogEntry :=
  ⟨.warn, "run cancelled between batches",
    [("plan_id", .string planId), ("ready", count ready)]⟩

def skipped (planId : String) (ids : List String) : LogEntry :=
  ⟨.warn, "skipping steps that can no longer run",
    [("plan_id", .string planId), ("skipped", .string (Text.quotedList ids))]⟩

/-- A replan is refused. -/
def limitReached (budget : ReplanBudget) : LogEntry :=
  ⟨.warn, "replan limit reached, completing with unresolved problems",
    [("used", Writer.word32 budget.used), ("limit", Writer.word32 budget.limit)]⟩

/-- A run ends with a ruling. -/
def finished (planId : String) (ruling : Ruling) (executed : Nat) : LogEntry :=
  ⟨.info, "plan run finished",
    [ ("plan_id", .string planId), ("result_type", .string ruling.conclusion.name),
      ("executed", count executed), ("replans_used", Writer.word32 ruling.budget.used) ]⟩

/-- Writes an entry with its level, its message and its fields. -/
def toJson (entry : LogEntry) : Json :=
  .object
    (("level", .string entry.level.name) :: ("message", .string entry.message) :: entry.fields)

end LogEntry

/-- The entries on calls that are repeated, given how many calls there were before. -/
def Turn.retryEntries (step : Step) : Nat → List Call → List (Timed LogEntry)
  | _, [] => []
  | before, call :: rest =>
      let entries :=
        match call.answer, call.retryDelay with
        | .failure message, some delay =>
            [⟨call.endsAt, LogEntry.retry step (before + 1) message delay⟩]
        | _, _ => []
      entries ++ retryEntries step (before + 1) rest

/-- The entries on how a turn ends; the record of its outcome only if records are logged. -/
def Turn.endEntries (planId : String) (records : Bool) (turn : Turn) : List LogEntry :=
  match turn.ending with
  | .broken _ => []
  | .settled answer _ _ =>
      (match answer with
        | .success _ => LogEntry.succeeded planId turn.step
        | .failure message => LogEntry.failed planId turn.step message) ::
        (if records then (turn.operation? planId 0).toList.map LogEntry.operation else [])

def Turn.entries (planId : String) (records : Bool) (turn : Turn) : List (Timed LogEntry) :=
  retryEntries turn.step 0 turn.calls ++
    (turn.endEntries planId records).map fun entry => ⟨turn.elapsed, entry⟩

def Batch.entries (planId : String) (records : Bool) (batch : Batch) : List LogEntry :=
  LogEntry.batch planId (batch.turns.map (·.step.id)) ::
    (Timed.inOrder (batch.turns.flatMap (·.entries planId records))).map (·.value)

namespace Plan

/-- The entries on steps that an earlier run left behind. -/
def staleEntries (plan : Plan) : List LogEntry :=
  (plan.idsWithStatus .running).map (LogEntry.stale plan.id)

/-- What the hint of a step disagrees with, in a layer of so many steps. -/
def hintEntry? (plan : Plan) (size : Nat) (id : String) : Option LogEntry :=
  match Step.find? plan.steps id with
  | some step =>
      if step.parallel && size = 1 then some (LogEntry.lonely id)
      else if !step.parallel && 1 < size then some (LogEntry.accompanied id (size - 1))
      else none
  | none => none

/-- The entries on hints that disagree with the dependencies. -/
def hintEntries (plan : Plan) : List LogEntry :=
  plan.graph.layers.flatMap fun layer => layer.filterMap (plan.hintEntry? layer.length)

end Plan

namespace History

/-- The entry on a cancelled run. -/
def stopEntries (history : History) : List LogEntry :=
  match history.stop with
  | .cancelled ready => [LogEntry.cancelled history.start.id ready]
  | _ => []

def skippedEntries (history : History) : List LogEntry :=
  if history.skipped.isEmpty then [] else [LogEntry.skipped history.start.id history.skipped]

/-- The number of outcomes that were recorded. -/
def executed (history : History) : Nat :=
  history.operations.length

def rulingEntries (history : History) : List LogEntry :=
  match history.ruling with
  | some ruling =>
      (if ruling.limitReached then [LogEntry.limitReached ruling.budget] else []) ++
        [LogEntry.finished history.start.id ruling history.executed]
  | none => []

/-- The log of a run; the records of outcomes are part of it only if they are logged. -/
def entries (history : History) (settings : Settings) (records : Bool) : List LogEntry :=
  history.start.staleEntries ++ history.start.hintEntries ++
    LogEntry.started settings history.start ::
      history.batches.flatMap (·.entries history.start.id records) ++
    history.stopEntries ++ history.skippedEntries ++ history.rulingEntries

end History

/-- The log of a run, which is empty for a plan that is not valid. -/
def Run.log (run : Run) (settings : Settings) (records : Bool) : List LogEntry :=
  (run.history.map (·.entries settings records)).getD []

end PlanRunner
