import PlanRunner.Run.Engine
import PlanRunner.Text.Quoted

/-!
# Timelines

When the calls of a run were made, how many of them were under way at a time, and what the trackers
of the context have been told. Calls that are made at the same time in a batch are in plan order.
-/

namespace PlanRunner

/-! ## Calls -/

/-- Puts timed entries into the order of their times; those of one time stay in order. -/
def Timed.inOrder {α : Type} (entries : List (Timed α)) : List (Timed α) :=
  Ranked.sort (·.delay) entries

/-- A call of a run: when it was made, and how many calls were under way then, itself included. -/
structure TimedCall where
  call : Call
  time : Nat
  active : Nat

namespace Batch

/-- Whether a call is under way at a time, if it was not made later than another turn's. -/
def underWay (time : Nat) (comesFirst : Bool) (call : Call) : Bool :=
  (call.startsAt < time || (comesFirst && call.startsAt = time)) && time < call.endsAt

/-- How many calls of other turns are under way when a turn makes a call. -/
def othersUnderWay (before after : List Turn) (time : Nat) : Nat :=
  (before.flatMap (·.calls)).countP (underWay time true) +
    (after.flatMap (·.calls)).countP (underWay time false)

/-- The calls of the turns of a batch, given those before them. -/
def callsOf (startsAt : Nat) : List Turn → List Turn → List (Timed TimedCall)
  | _, [] => []
  | before, turn :: after =>
      turn.calls.map (fun call =>
        ⟨call.startsAt,
          { call, time := startsAt + call.startsAt
            active := 1 + othersUnderWay before after call.startsAt }⟩) ++
        callsOf startsAt (before ++ [turn]) after

/-- The calls of a batch in the order in which they were made. -/
def timedCalls (batch : Batch) : List TimedCall :=
  (Timed.inOrder (callsOf batch.startsAt [] batch.turns)).map (·.value)

end Batch

namespace Run

def batches (run : Run) : List Batch :=
  (run.history.map (·.batches)).getD []

/-- The calls of a run in the order in which they were made. -/
def calls (run : Run) : List TimedCall :=
  run.batches.flatMap (·.timedCalls)

/-- What the trackers were told in a run. -/
def operations (run : Run) : List Operation :=
  (run.history.map (·.operations)).getD []

end Run

/-! ## Trackers -/

/-- What all steps of a run share. -/
structure Context where
  input : String := ""
  history : List String := []
  iteration : UInt32 := 0
  cancelled : Bool := false
  /-- How many trackers are told about the outcomes of steps. -/
  trackers : Nat := 0
  deriving DecidableEq, Repr, Inhabited

/-- A context in one line; the conversation and the trackers are only counted. -/
def Context.describe (context : Context) : String :=
  "ExecutionContext \x7b input: " ++ Text.quoted context.input ++ ", history: " ++
    toString context.history.length ++ ", iteration: " ++ toString context.iteration ++
    ", cancelled: " ++ (if context.cancelled then "true" else "false") ++ ", trackers: " ++
    toString context.trackers ++ " \x7d"

/-- What each of some trackers has been told, once all of them are told of one more operation. -/
def Operation.tell (heard : List (List Operation)) (operation : Operation) :
    List (List Operation) :=
  heard.map (· ++ [operation])

/-- What each tracker of a context has been told after a run. -/
def Run.heard (context : Context) (run : Run) : List (List Operation) :=
  run.operations.foldl Operation.tell (List.replicate context.trackers [])

end PlanRunner
