import PlanRunner.Run.Timeline

/-!
# Rehearsals

A rehearsal runs a plan with answers from a script. Nothing but the written delays takes time, none
of them more than thirty years, and turns end in the order of their times.
-/

namespace PlanRunner

/-- The answer to a call in a script. -/
structure Cue where
  delay : UInt64
  answer : Answer
  deriving DecidableEq

/-- When a rehearsal is cancelled. -/
inductive CancelPoint where
  | beforeStart
  /-- When the outcome of a step is recorded. -/
  | afterStep (id : String)
  /-- When a step calls its tool. -/
  | onCall (id : String)
  deriving DecidableEq, Repr

/-- The part of the arguments that tells how the resolver is to behave. -/
structure ResolverCue where
  delay : UInt64
  /-- The causes of a failure, from the outermost to the innermost. Without any nothing fails. -/
  causes : List String
  deriving DecidableEq, Repr

/-- A script for a run. -/
structure Rehearsal where
  context : Context
  /-- The answers to the calls of each step, in order. -/
  scripts : List (String × List Cue)
  cancelAt : Option CancelPoint
  /-- Whether arguments may tell how the resolver is to behave. -/
  cuesResolver : Bool

namespace ResolverCue

def delayOf : Json → Option UInt64
  | .number (.integer value _) => if 0 ≤ value then some (UInt64.ofNat value.toNat) else none
  | _ => none

def causesOf : Json → List String
  | .array items =>
      items.filterMap fun item =>
        match item with
        | .string text => some text
        | _ => none
  | _ => []

/-- What arguments tell about the behaviour of the resolver. -/
def ofArguments (arguments : Json) : ResolverCue :=
  { delay := ((arguments.field? "resolver_delay_ms").bind delayOf).getD 0
    causes := ((arguments.field? "resolver_error").map causesOf).getD [] }

end ResolverCue

namespace Rehearsal

/-- The longest that a delay lasts, in milliseconds: thirty years of 365 days. -/
def longestDelay : Nat := 30 * 365 * 24 * 60 * 60 * 1000

/-- How long a written delay lasts. -/
def lasting (delay : UInt64) : Nat := min delay.toNat longestDelay

/-- Resolves the arguments of a step, after the delay and with the failure that they ask for. -/
def resolve (rehearsal : Rehearsal) (step : Step) (steps : List Step) :
    Timed (Except String Resolution) :=
  let resolution := Template.resolve steps rehearsal.context.input step.arguments
  if rehearsal.cuesResolver then
    let cue := ResolverCue.ofArguments step.arguments
    match cue.causes with
    | [] => ⟨lasting cue.delay, .ok resolution⟩
    | causes => ⟨lasting cue.delay, .error (String.intercalate ": " causes)⟩
  else ⟨0, .ok resolution⟩

/-- The next answer of the script; without one the tool gives its arguments back at once. -/
def invoke (rehearsal : Rehearsal) (action : Action) (before : Nat) : Timed Answer :=
  match ((rehearsal.scripts.lookup action.stepId).getD [])[before]? with
  | some cue => ⟨lasting cue.delay, cue.answer⟩
  | none => ⟨0, .success action.arguments⟩

/-- Whether a turn reaches the point at which the run is cancelled. -/
def reaches (turn : Turn) : CancelPoint → Bool
  | .beforeStart => true
  | .afterStep id =>
      match turn.ending with
      | .settled _ _ _ => turn.step.id = id
      | .broken _ => false
  | .onCall id => turn.step.id = id && !turn.calls.isEmpty

/-- Whether the run is cancelled by the end of some batches. -/
def cancelled (rehearsal : Rehearsal) (batches : List Batch) : Bool :=
  rehearsal.context.cancelled ||
    match rehearsal.cancelAt with
    | none => false
    | some .beforeStart => true
    | some point => batches.any fun batch => batch.turns.any fun turn => reaches turn point

def environment (rehearsal : Rehearsal) (runId : String) (startedAt : Timestamp) : Environment :=
  { resolve := rehearsal.resolve
    invoke := rehearsal.invoke
    runId, startedAt
    rank := Turn.elapsed
    cancelled := rehearsal.cancelled }

/-- Runs a plan with the answers of a script. -/
def run (rehearsal : Rehearsal) (settings : Settings) (plan : Plan) (runId : String)
    (startedAt : Timestamp) : Run :=
  plan.run settings (rehearsal.environment runId startedAt)

end Rehearsal

/-- A run in which every tool gives its arguments back. -/
def Plan.dryRun (settings : Settings) (input : String) (runId : String) (startedAt : Timestamp)
    (plan : Plan) : Run :=
  Rehearsal.run
    { context := { input, trackers := 1 }, scripts := [], cancelAt := none, cuesResolver := false }
    settings plan runId startedAt

end PlanRunner
