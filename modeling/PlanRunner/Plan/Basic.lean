import PlanRunner.Graph.Basic
import PlanRunner.Plan.Signals

/-!
# Plans

A plan is a list of steps with a goal, and with metadata that outlive a single run. It is valid when
it has a step and its graph is valid.
-/

namespace PlanRunner

/-- What is kept about a plan from run to run. -/
structure Metadata where
  signals : Option Signals := none
  /-- How often the plan has been sent back for replanning. -/
  replansCount : UInt32 := 0
  /-- Everything else that the planner attached, in key order. -/
  extra : List (String × Json) := []
  deriving DecidableEq

instance : Inhabited Metadata := ⟨{}⟩

/-- A plan. -/
structure Plan where
  id : String
  strategy : String
  goal : String
  reasoning : String
  steps : List Step
  status : PlanStatus
  metadata : Metadata
  deriving DecidableEq

namespace Plan

/-- A plan without any content. -/
def blank : Plan :=
  { id := "", strategy := "", goal := "", reasoning := "", steps := [], status := .pending,
    metadata := {} }

instance : Inhabited Plan := ⟨blank⟩

/-- The first step with an identifier. -/
def step? (plan : Plan) (id : String) : Option Step :=
  plan.steps.find? (·.id == id)

/-- The position of every step by its identifier, in key order; of several the last one. -/
def positions (plan : Plan) : List (String × Nat) :=
  Keyed.ofList (plan.steps.map (·.id)).zipIdx

/-- The identifiers of the steps with a status, in plan order. -/
def idsWithStatus (plan : Plan) (status : StepStatus) : List String :=
  (plan.steps.filter (·.status = status)).map (·.id)

/-- The signals of a plan; a plan without any has empty ones. -/
def signals (plan : Plan) : Signals :=
  plan.metadata.signals.getD {}

def withSignals (plan : Plan) (signals : Option Signals) : Plan :=
  { plan with metadata := { plan.metadata with signals } }

def updateStep (plan : Plan) (id : String) (change : Step → Step) : Plan :=
  { plan with steps := plan.steps.map fun step => if step.id = id then change step else step }

/-! ## Valid plans -/

def graph (plan : Plan) : Graph :=
  .ofSteps plan.steps

/-- What is wrong with a plan, if anything is. -/
def validate (plan : Plan) : Except PlanError Unit :=
  if plan.steps.isEmpty then .error (.noSteps plan.id) else plan.graph.validate

/-- A plan that has not run, with steps to check. -/
def new (id strategy : String) (steps : List Step) : Except PlanError Plan := do
  let plan := { blank with id, strategy, steps }
  plan.validate
  return plan

end Plan

end PlanRunner
