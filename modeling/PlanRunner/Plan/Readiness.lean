import PlanRunner.Plan.Step

/-!
# Readiness

A pending step is ready when all steps that it depends on are done. A pending step that can never
become ready waits, at some distance, for something that will never be done: a failure, a skipped
step, a cycle or an identifier that is no step.
-/

namespace PlanRunner.Step

/-- Whether every step that a pending step depends on is done. -/
def isReady (steps : List Step) (step : Step) : Bool :=
  step.status = .pending && step.dependencies.ids.all fun id =>
    match find? steps id with
    | some dependency => dependency.satisfiesDependents
    | none => false

/-- The identifiers of the ready steps, in plan order. -/
def ready (steps : List Step) : List String :=
  (steps.filter (isReady steps)).map (·.id)

/--
Whether a step is done, in flight, or pending and able to run because it is one of the steps already
known to be live.
-/
def mayFinish (steps : List Step) (live : List String) (id : String) : Bool :=
  match find? steps id with
  | some dependency =>
      dependency.satisfiesDependents || dependency.status = .running ||
        (dependency.status = .pending && live.contains id)
  | none => false

/-- Adds a step to those that are known to be live if it turns out to be live as well. -/
def enlivenStep (steps : List Step) (live : List String) (step : Step) : List String :=
  if step.status = .pending && !live.contains step.id &&
      step.dependencies.ids.all (mayFinish steps live) then
    step.id :: live
  else live

/-- One pass over the steps, which adds those that turn out to be live. -/
def enliven (steps : List Step) (live : List String) : List String :=
  steps.foldl (enlivenStep steps) live

/-- The live steps after so many passes, or fewer if a pass adds none. -/
def enlivened (steps : List Step) : Nat → List String → List String
  | 0, live => live
  | passes + 1, live =>
      let extended := enliven steps live
      if extended.length = live.length then live else enlivened steps passes extended

/-- The pending steps that may still run: no more passes are needed than there are steps. -/
def live (steps : List Step) : List String :=
  enlivened steps (steps.length + 1) []

/-- The identifiers of the pending steps that can never become ready, in plan order. -/
def unreachable (steps : List Step) : List String :=
  let live := live steps
  (steps.filter fun step => step.status = .pending && !live.contains step.id).map (·.id)

end PlanRunner.Step
