import PlanRunner.Proofs.Plan.Lookup
import PlanRunner.Proofs.Template.Locality
import PlanRunner.Replan.Brief
import PlanRunner.Run.Engine

/-!
# What is there for readers only

The descriptions of steps, the hints that steps may run side by side, and the goal and the reasoning
of a plan are there for readers. A plan without them has the same ready steps, resolves arguments to
the same values, comes to the same ruling and gives the same brief.
-/

namespace PlanRunner

/-! ## Steps -/

namespace Step

variable {steps : List Step} {step : Step} {id : String}

/-- A step without its description and without the hint that it may run side by side with others. -/
def bare (step : Step) : Step :=
  { step with description := "", parallel := false }

@[simp] theorem id_bare (step : Step) : step.bare.id = step.id := rfl

theorem id_eq_of_bare {first second : Step} (same : first.bare = second.bare) :
    first.id = second.id := by
  injection same

@[simp] theorem status_bare (step : Step) : step.bare.status = step.status := rfl

@[simp] theorem isBlockingFailure_bare (step : Step) :
    step.bare.isBlockingFailure = step.isBlockingFailure := rfl

@[simp] theorem hasRetryBudget_bare (step : Step) (retries : UInt32) :
    step.bare.hasRetryBudget retries = step.hasRetryBudget retries := rfl

@[simp] theorem find?_bare (steps : List Step) (id : String) :
    find? (steps.map bare) id = (find? steps id).map bare :=
  find?_map id_bare

theorem distinct_bare : Distinct (steps.map bare) ↔ Distinct steps :=
  distinct_map id_bare

/-! ## Readiness -/

@[simp] theorem isReady_bare (steps : List Step) (step : Step) :
    isReady (steps.map bare) step.bare = isReady steps step := by
  unfold isReady
  congr 1
  refine congrArg step.dependencies.ids.all (funext fun id => ?_)
  rw [find?_bare]
  cases find? steps id <;> rfl

@[simp] theorem ready_bare (steps : List Step) : ready (steps.map bare) = ready steps := by
  have isReady : isReady (steps.map bare) ∘ bare = isReady steps :=
    funext fun step => isReady_bare steps step
  rw [ready, List.filter_map, isReady, List.map_map]
  rfl

theorem mayFinish_bare (steps : List Step) : mayFinish (steps.map bare) = mayFinish steps := by
  funext live id
  unfold mayFinish
  rw [find?_bare]
  cases find? steps id <;> rfl

theorem enliven_bare (steps : List Step) : enliven (steps.map bare) = enliven steps := by
  funext live
  rw [enliven, List.foldl_map, enliven]
  congr 1
  funext live step
  unfold enlivenStep
  rw [mayFinish_bare]
  rfl

theorem enlivened_bare (steps : List Step) (passes : Nat) :
    enlivened (steps.map bare) passes = enlivened steps passes := by
  induction passes with
  | zero => rfl
  | succ passes ih =>
      funext live
      simp only [enlivened, enliven_bare, ih]

@[simp] theorem unreachable_bare (steps : List Step) :
    unreachable (steps.map bare) = unreachable steps := by
  simp only [unreachable, live, List.length_map, enlivened_bare, List.filter_map, List.map_map]
  rfl

end Step

/-! ## Arguments -/

theorem Reference.root?_bare (steps : List Step) (input id : String) :
    root? (steps.map Step.bare) input id = root? steps input id := by
  have named : (fun step : Step => step.id == id) ∘ Step.bare = fun step => step.id == id := rfl
  unfold root?
  rw [List.find?_map, named]
  cases steps.find? (·.id == id) <;> rfl

theorem Template.resolve_bare (steps : List Step) (input : String) (arguments : Json) :
    resolve (steps.map Step.bare) input arguments = resolve steps input arguments :=
  resolve_congr fun name _ => Reference.root?_bare steps input name

/-! ## Plans -/

namespace Plan

variable {plan : Plan}

/-- A plan without anything that is there for readers only. -/
def bare (plan : Plan) : Plan :=
  { plan with goal := "", reasoning := "", steps := plan.steps.map Step.bare }

theorem steps_bare (plan : Plan) : plan.bare.steps = plan.steps.map Step.bare := rfl

@[simp] theorem graph_bare (plan : Plan) : plan.bare.graph = plan.graph := by
  simp only [graph, steps_bare, Graph.ofSteps, List.map_map, List.flatMap_map]
  rfl

theorem validate_bare (plan : Plan) : plan.bare.validate = plan.validate := by
  rw [validate, validate, graph_bare, steps_bare, List.isEmpty_map]
  rfl

theorem withStatus_bare (plan : Plan) (ids : List String) (status : StepStatus) :
    plan.bare.withStatus ids status = (plan.withStatus ids status).bare := by
  simp only [withStatus, bare, List.map_map]
  congr 2
  funext step
  simp only [Function.comp_apply, Step.id_bare, apply_ite Step.bare]
  rfl

theorem reset_bare (plan : Plan) : plan.bare.reset = plan.reset.bare := by
  simp only [reset, bare, List.map_map]
  congr 2
  funext step
  simp only [Function.comp_apply, Step.status_bare, apply_ite Step.bare]
  rfl

theorem skipUnreachable_bare (plan : Plan) :
    plan.bare.skipUnreachable = plan.skipUnreachable.bare := by
  rw [skipUnreachable, steps_bare, Step.unreachable_bare, withStatus_bare, skipUnreachable]

/-! ## Rulings and briefs -/

theorem idsWhere_bare (plan : Plan) {property : Step → Bool}
    (ignores : ∀ step : Step, property step.bare = property step) :
    plan.bare.idsWhere property = plan.idsWhere property := by
  have same : property ∘ Step.bare = property := funext ignores
  rw [idsWhere, steps_bare, List.filter_map, same, List.map_map]
  rfl

theorem idsWithStatus_bare (plan : Plan) (status : StepStatus) :
    plan.bare.idsWithStatus status = plan.idsWithStatus status :=
  plan.idsWhere_bare fun _ => rfl

theorem hasLiveDependent_bare (plan : Plan) (id : String) :
    plan.bare.hasLiveDependent id = plan.hasLiveDependent id := by
  unfold hasLiveDependent
  rw [graph_bare]
  refine congrArg _ (funext fun dependent => ?_)
  rw [steps_bare, Step.find?_bare]
  cases Step.find? plan.steps dependent <;> rfl

theorem hasViableContinuation_bare (plan : Plan) (retries : UInt32) :
    plan.bare.hasViableContinuation retries = plan.hasViableContinuation retries := by
  simp only [hasViableContinuation, steps_bare, List.any_map, Function.comp_def,
    Step.isBlockingFailure_bare, Step.hasRetryBudget_bare, Step.id_bare, hasLiveDependent_bare]

theorem tally_bare (plan : Plan) (retries : UInt32) (cancelled : Bool) :
    plan.bare.tally retries cancelled = plan.tally retries cancelled := by
  have length : plan.bare.steps.length = plan.steps.length := by
    rw [steps_bare, List.length_map]
  have optional : plan.bare.idsWhere Step.isOptionalFailure =
      plan.idsWhere Step.isOptionalFailure := plan.idsWhere_bare fun _ => rfl
  have left : plan.bare.idsWhere Step.isLeft = plan.idsWhere Step.isLeft :=
    plan.idsWhere_bare fun _ => rfl
  simp only [tally, length, idsWithStatus_bare, idsWhere_bare plan Step.isBlockingFailure_bare,
    optional, left, hasViableContinuation_bare, graph_bare]

theorem ruling_bare (plan : Plan) (settings : Settings) (cancelled : Bool) :
    plan.bare.ruling settings cancelled = plan.ruling settings cancelled := by
  rw [ruling, tally_bare, ruling]
  rfl

theorem brief_bare (plan : Plan) (cancelled : Bool) :
    Replan.brief plan.bare cancelled = Replan.brief plan cancelled := by
  have preserved : Replan.preservedSteps plan.bare = Replan.preservedSteps plan := by
    simp only [Replan.preservedSteps, steps_bare, List.filter_map, List.map_map]
    rfl
  have failed : Replan.failedSteps plan.bare = Replan.failedSteps plan := by
    simp only [Replan.failedSteps, steps_bare, List.filter_map, List.map_map]
    rfl
  rw [Replan.brief, preserved, failed]
  rfl

end Plan

end PlanRunner
