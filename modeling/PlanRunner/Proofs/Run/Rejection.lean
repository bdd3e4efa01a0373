import PlanRunner.Proofs.Plan.Faults
import PlanRunner.Proofs.Run.Outcome
import PlanRunner.Run.Rehearsal

/-!
# Runs that are refused

With arguments that are resolved by filling in the templates nothing can keep a run from giving a
report but a fault of its plan. The first fault is reported then, and nothing else happens: the plan
stays as it is, no argument is resolved, no tool is called and no tracker is told anything.
-/

namespace PlanRunner

variable {settings : Settings} {environment : Environment} {plan : Plan} {fault : PlanError}

/-- A run of a plan with a fault reports the fault and does nothing. -/
theorem Plan.FirstFault.run_eq (first : plan.FirstFault fault) (settings : Settings)
    (environment : Environment) :
    plan.run settings environment =
      { outcome := .error (.plan fault), plan, history := none } := by
  rw [Plan.run, Plan.validate_eq_error_iff.2 first]

/-- A plan that is not let through has a first fault. -/
theorem Plan.exists_firstFault (rejected : plan.validate ≠ .ok ()) :
    ∃ fault, plan.FirstFault fault := by
  cases checked : plan.validate with
  | error fault => exact ⟨fault, Plan.validate_eq_error_iff.1 checked⟩
  | ok _ => exact absurd checked rejected

/-- Where templates are filled in, the errors of a run are the first faults of its plan. -/
theorem Plan.run_eq_error_iff {input : String} (templates : environment.UsesTemplates input)
    {error : RunError} :
    (plan.run settings environment).outcome = .error error ↔
      ∃ fault, error = .plan fault ∧ plan.FirstFault fault := by
  constructor
  · intro outcome
    by_cases checked : plan.validate = .ok ()
    · have valid := Plan.validate_eq_ok.1 checked
      obtain ⟨report, last, isOk, -⟩ := valid.concludes settings templates
      rw [isOk] at outcome
      contradiction
    · obtain ⟨fault, first⟩ := Plan.exists_firstFault checked
      rw [first.run_eq] at outcome
      cases outcome
      exact ⟨fault, rfl, first⟩
  · rintro ⟨fault, rfl, first⟩
    rw [first.run_eq]

/--
A run for which templates are filled in gives an error exactly if its plan is not let through. A
plan is let through if it has a step, if no identifier of a step is blank or occurs twice, and if
its steps depend on other steps of the plan only. The error is the first fault. With an error the
plan stays as it was, no step has a turn, and no tracker is told anything: whatever the settings and
the world, the run is the same.
-/
theorem rejects_faulty_plans {input : String} (templates : environment.UsesTemplates input)
    (settings : Settings) (plan : Plan) :
    ((∃ error, (plan.run settings environment).outcome = .error error) ↔
      plan.validate ≠ .ok ()) ∧
    (plan.validate = .ok () ↔
      plan.steps ≠ [] ∧ Step.Named plan.steps ∧
        ∀ step ∈ plan.steps, ∀ id ∈ step.dependencies, plan.Sound step id) ∧
    (∀ fault, plan.validate = .error fault ↔ plan.FirstFault fault) ∧
    ∀ error, (plan.run settings environment).outcome = .error error →
      (∃ fault, error = .plan fault ∧ plan.FirstFault fault) ∧
      (plan.run settings environment).plan = plan ∧
      (plan.run settings environment).batches = [] ∧
      (plan.run settings environment).operations = [] ∧
      ∀ later world, plan.run later world = plan.run settings environment := by
  refine ⟨⟨?rejected, ?fails⟩, Plan.validate_eq_ok_iff, fun _ => Plan.validate_eq_error_iff, ?_⟩
  case rejected =>
    rintro ⟨error, outcome⟩ checked
    obtain ⟨fault, -, first⟩ := (Plan.run_eq_error_iff templates).1 outcome
    rw [Plan.validate_eq_error_iff.2 first] at checked
    contradiction
  case fails =>
    intro rejected
    obtain ⟨fault, first⟩ := Plan.exists_firstFault rejected
    exact ⟨_, (Plan.run_eq_error_iff templates).2 ⟨fault, rfl, first⟩⟩
  intro error outcome
  obtain ⟨fault, isFault, first⟩ := (Plan.run_eq_error_iff templates).1 outcome
  refine ⟨⟨fault, isFault, first⟩, ?_, ?_, ?_, fun later world => ?_⟩
  · rw [first.run_eq]
  · rw [first.run_eq]
    rfl
  · rw [first.run_eq]
    rfl
  · rw [first.run_eq, first.run_eq]

/-- A dough whose mixing waits for itself, and whose baking waits for what is no step. -/
def doughPlan (more : List Step) : Plan :=
  { Plan.blank with
    id := "dough"
    steps :=
      [Step.new "weigh" "scale" .null,
        (Step.new "mix" "whisk" .null).dependingOn ["weigh", "mix", "bake"],
        (Step.new "bake" "oven" .null).dependingOn ["mix", "serve"]] ++ more }

/-- A world in which templates are filled in and tools give their arguments back. -/
def bakery : Environment :=
  Rehearsal.environment
    { context := {}, scripts := [], cancelAt := none, cuesResolver := false } "run" default

/-- A repeated identifier counts before a dependency of a step on itself, which counts too. -/
theorem rejects_faulty_plans_dough :
    bakery.UsesTemplates "" ∧
    (doughPlan []).FirstFault (.selfDependency "mix") ∧
    (doughPlan [Step.new "mix" "spoon" .null]).FirstFault (.duplicateId "mix") ∧
    ∃ error, ((doughPlan []).run {} bakery).outcome = .error error ∧
      ((doughPlan []).run {} bakery).plan = doughPlan [] ∧
      ((doughPlan []).run {} bakery).batches = [] ∧
      ((doughPlan []).run {} bakery).operations = [] := by
  have templates : bakery.UsesTemplates "" := fun _ _ => rfl
  have itself : (doughPlan []).validate = .error (.selfDependency "mix") := by decide +kernel
  have again : (doughPlan [Step.new "mix" "spoon" .null]).validate =
      .error (.duplicateId "mix") := by decide +kernel
  obtain ⟨fails, -, faults, rejected⟩ := rejects_faulty_plans templates {} (doughPlan [])
  obtain ⟨-, -, moreFaults, -⟩ :=
    rejects_faulty_plans templates {} (doughPlan [Step.new "mix" "spoon" .null])
  obtain ⟨error, outcome⟩ := fails.2 (by simp [itself])
  obtain ⟨-, kept, untaken, untold, -⟩ := rejected error outcome
  exact ⟨templates, (faults _).1 itself, (moreFaults _).1 again, error, outcome, kept, untaken,
    untold⟩

end PlanRunner
