import PlanRunner.Run.Action
import PlanRunner.Settings.Basic
import PlanRunner.Template.Resolution

/-!
# Turns

A turn is all that happens to a step when it runs: its arguments are resolved, its tool is called,
and called again after an error as long as retries are left. Times count in milliseconds from the
start of the turn.
-/

namespace PlanRunner

/-- Something that takes a while. -/
structure Timed (α : Type) where
  delay : Nat
  value : α

/--
The world that a step meets. A tool is told how often the step has called it before, so that it may
answer differently each time.
-/
structure Gateways where
  resolve : Step → List Step → Timed (Except String Resolution)
  invoke : Action → Nat → Timed Answer

/-- A call of a tool. -/
structure Call where
  action : Action
  startsAt : Nat
  endsAt : Nat
  answer : Answer
  /-- The delay before the call is repeated, if it is. -/
  retryDelay : Option UInt64
  deriving DecidableEq

/-- How a turn ends. -/
inductive Ending where
  /-- The resolver broke down. -/
  | broken (message : String)
  /-- There is an answer, after so many calls, and with the retry count that the step has then. -/
  | settled (answer : Answer) (retryCount attempts : UInt32)
  deriving DecidableEq

/-- All that happens to a step when it runs. -/
structure Turn where
  step : Step
  calls : List Call
  elapsed : Nat
  ending : Ending
  deriving DecidableEq

/-- The answer to a call that takes too long. -/
def Answer.timedOut (seconds : UInt64) : Answer :=
  .failure ("timed out after " ++ toString seconds ++ "s")

/-- The answer for a step some of whose references have no value. -/
def Answer.missingInputs (labels : List String) : Answer :=
  .failure ("missing inputs: " ++ String.intercalate ", " labels)

/-- An answer that comes within the time limit, or else the end of the wait for it. -/
def Timed.within (settings : Settings) (reply : Timed Answer) : Timed Answer :=
  match settings.stepTimeout? with
  | some seconds =>
      if seconds.toNat * 1000 < reply.delay then ⟨seconds.toNat * 1000, .timedOut seconds⟩
      else reply
  | none => reply

namespace Turn

/-- The call that starts at a time, after so many others. -/
def callAt (settings : Settings) (gateways : Gateways) (action : Action) (before now : Nat) :
    Call :=
  let reply := (gateways.invoke action before).within settings
  { action, startsAt := now, endsAt := now + reply.delay, answer := reply.value
    retryDelay := none }

/-- The calls that are repeated, and the last one, with so many retries left. -/
def callsFrom (settings : Settings) (gateways : Gateways) (action : Action) :
    Nat → Nat → Nat → List Call × Call
  | 0, before, now => ([], callAt settings gateways action before now)
  | retries + 1, before, now =>
      let call := callAt settings gateways action before now
      match call.answer with
      | .success _ => ([], call)
      | .failure _ =>
          let delay := settings.retryBackoff (UInt32.ofNat before)
          let (repeated, last) :=
            callsFrom settings gateways action retries (before + 1) (call.endsAt + delay.toNat)
          ({ call with retryDelay := some delay } :: repeated, last)

/-- How many retries a step has left. -/
def retriesLeft (settings : Settings) (step : Step) : Nat :=
  (step.retryBudget settings.maxRetries).toNat - step.retryCount.toNat

/-- The turn of a step that sees the given steps. -/
def take (settings : Settings) (gateways : Gateways) (steps : List Step) (step : Step) : Turn :=
  let resolved := gateways.resolve step steps
  match resolved.value with
  | .error message => { step, calls := [], elapsed := resolved.delay, ending := .broken message }
  | .ok resolution =>
      if resolution.isComplete then
        let action := Action.ofStep step resolution.arguments
        let (repeated, last) :=
          callsFrom settings gateways action (retriesLeft settings step) 0 resolved.delay
        { step
          calls := repeated ++ [last]
          elapsed := last.endsAt
          ending :=
            .settled last.answer (step.retryCount + UInt32.ofNat repeated.length)
              (UInt32.ofNat (repeated.length + 1)) }
      else
        { step
          calls := []
          elapsed := resolved.delay
          ending := .settled (.missingInputs resolution.missing) step.retryCount 0 }

/-- A step after its turn. A step whose arguments could not be resolved stays as it is. -/
def mark (ending : Ending) (step : Step) : Step :=
  match ending with
  | .broken _ => step
  | .settled (.success content) retryCount _ =>
      { step with retryCount, status := .succeeded, result := some content, error := none }
  | .settled (.failure message) retryCount _ =>
      { step with retryCount, status := .failed, result := none, error := some message }

end Turn

end PlanRunner
