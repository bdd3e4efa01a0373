import PlanRunner.Proofs.Run.Outcome
import PlanRunner.Proofs.Verdict.Rulings

/-!
# How a run is ruled

What has become of the steps after a run suggests a conclusion, and the ruling weighs it against the
signals and the budget that the plan had before the run. The report says what the ruling says, and
the replan count of the plan is the one of the ruling. A run without a report leaves the count
alone. The limit on replans matters to the ruling only: what becomes of the steps does not depend on
it.
-/

namespace PlanRunner

open Progress

variable {settings : Settings} {environment : Environment} {plan other : Plan} {report : Report}
  {error : RunError}

/-! ## Tallies -/

/-- What there is to know about the steps of a plan follows from the steps. -/
theorem Plan.tally_congr (same : plan.steps = other.steps) (retries : UInt32) (cancelled : Bool) :
    plan.tally retries cancelled = other.tally retries cancelled := by
  cases plan
  cases other
  cases same
  rfl

/-- The tally of a plan after a run. -/
def Plan.tallyAfter (settings : Settings) (environment : Environment) (plan : Plan)
    (cancelled : Bool) : Tally :=
  (plan.run settings environment).plan.tally settings.maxRetries cancelled

/-- The ruling on a plan after a run. -/
def Plan.rulingAfter (settings : Settings) (environment : Environment) (plan : Plan)
    (cancelled : Bool) : Ruling :=
  let tally := plan.tallyAfter settings environment cancelled
  Ruling.of tally.conclusion (tally.feedback tally.conclusion) plan.metadata.signals
    ⟨plan.metadata.replansCount, settings.maxReplansPerPlan⟩

/-! ## Reports -/

/-- What a report says about a run, and what the run has done to the metadata of its plan. -/
structure Plan.Ruled (settings : Settings) (environment : Environment) (plan : Plan)
    (report : Report) : Prop where
  conclusion : report.conclusion =
    (plan.rulingAfter settings environment report.cancelled).conclusion
  feedback : report.feedback = (plan.rulingAfter settings environment report.cancelled).feedback
  hasSignalsProblems : report.hasSignalsProblems =
    (plan.rulingAfter settings environment report.cancelled).hasProblems
  replanBudget : report.replanBudget =
    (plan.rulingAfter settings environment report.cancelled).budget
  metadata : (plan.run settings environment).plan.metadata =
    { plan.metadata with
      replansCount := (plan.rulingAfter settings environment report.cancelled).budget.used }

/-- Up to its end a run changes nothing about the metadata of its plan. -/
theorem Progress.Coherent.metadata {progress : Progress}
    (coherent : Coherent (start plan) progress) : progress.plan.metadata = plan.metadata := by
  rw [coherent.frame]
  rfl

/-- A ruling changes nothing about the steps. -/
theorem Plan.steps_rule (plan : Plan) (ruling : Ruling) : (plan.rule ruling).steps = plan.steps :=
  rfl

/-- The ruling looks at the steps as the run leaves them, and at the metadata from before. -/
theorem Plan.rulingAfter_eq {progress : Progress} {ruling : Ruling} (cancelled : Bool)
    (final : (plan.run settings environment).plan = progress.plan.skipUnreachable.rule ruling)
    (metadata : progress.plan.metadata = plan.metadata) :
    plan.rulingAfter settings environment cancelled =
      progress.plan.skipUnreachable.ruling settings cancelled := by
  have tallies : plan.tallyAfter settings environment cancelled =
      progress.plan.skipUnreachable.tally settings.maxRetries cancelled := by
    rw [Plan.tallyAfter, final]
    exact Plan.tally_congr (Plan.steps_rule _ _) _ _
  have kept : progress.plan.skipUnreachable.metadata = plan.metadata := metadata
  simp only [Plan.rulingAfter, Plan.ruling, tallies, kept]

theorem Plan.ruled_finish {progress : Progress} {stop : Stop}
    (ran : plan.run settings environment = Run.finish settings environment plan progress stop)
    (metadata : progress.plan.metadata = plan.metadata)
    (outcome : (plan.run settings environment).outcome = .ok report) :
    plan.Ruled settings environment report := by
  cases stop with
  | broken error => simp [ran, Run.finish] at outcome
  | drained | cancelled ready =>
      have final := congrArg Run.plan ran
      have same := fun cancelled => Plan.rulingAfter_eq cancelled final metadata
      rw [ran] at outcome
      cases outcome
      constructor
      · exact congrArg Ruling.conclusion (same _).symm
      · exact congrArg Ruling.feedback (same _).symm
      · exact congrArg Ruling.hasProblems (same _).symm
      · exact congrArg Ruling.budget (same _).symm
      · rw [final, ← metadata]
        exact congrArg (fun ruling : Ruling =>
          { progress.plan.metadata with replansCount := ruling.budget.used }) (same _).symm

/-- A run that gives a report is ruled by what has become of its steps. -/
theorem Plan.ruled_of_run_ok (outcome : (plan.run settings environment).outcome = .ok report) :
    plan.Ruled settings environment report := by
  have valid := Plan.valid_of_run_ok outcome
  obtain ⟨last, final, stop, reaches, stops, ran⟩ := valid.run_stops settings environment
  have metadata := (valid.coherent_start.of_reaches reaches).metadata
  cases stops with
  | drained drained => exact Plan.ruled_finish ran metadata outcome
  | cancelled ready cancelled => exact Plan.ruled_finish ran metadata outcome
  | broken ready free broke => simp [ran, Run.finish] at outcome

/-- A run without a report changes nothing about the metadata of its plan. -/
theorem Plan.metadata_of_run_error
    (outcome : (plan.run settings environment).outcome = .error error) :
    (plan.run settings environment).plan.metadata = plan.metadata := by
  by_cases valid : plan.Valid
  · obtain ⟨last, final, stop, reaches, stops, ran⟩ := valid.run_stops settings environment
    have coherent := valid.coherent_start.of_reaches reaches
    rw [ran] at outcome ⊢
    cases stops with
    | drained drained => simp [Run.finish] at outcome
    | cancelled ready cancelled => simp [Run.finish] at outcome
    | broken ready free broke =>
        rw [← coherent.metadata]
        change (last.next settings environment).plan.metadata = _
        rw [plan_next coherent.distinct]
  · obtain ⟨refusal, ran⟩ := Plan.run_of_not_valid valid settings environment
    rw [ran]

/-! ## The limit on replans -/

end PlanRunner
