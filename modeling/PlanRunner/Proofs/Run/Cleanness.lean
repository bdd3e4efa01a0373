import PlanRunner.Proofs.Run.Lineage
import PlanRunner.Proofs.Run.Statuses

/-!
# What a clean report stands for

A report is clean exactly if every step of the plan has succeeded, or is optional and has failed,
and the signals of the plan report no problem. A report that says that the plan is complete and yet
is not clean owes it to the signals or to a new plan that was refused, and says so. The report hands
a brief to the planner exactly if it asks for a new plan, and the status of the plan says how the
run ended.
-/

namespace PlanRunner

variable {settings : Settings} {environment : Environment} {plan : Plan} {report : Report}

/-! ## Reports -/

/-- A new plan is asked for after a run, and there is no budget for it. -/
def Plan.Refused (settings : Settings) (environment : Environment) (plan : Plan)
    (cancelled : Bool) : Prop :=
  Ruling.Asks (plan.tallyAfter settings environment cancelled).conclusion plan.metadata.signals ∧
    settings.maxReplansPerPlan ≤ plan.metadata.replansCount

namespace Plan.Ruled

theorem signals (ruled : plan.Ruled settings environment report) :
    (plan.run settings environment).plan.metadata.signals = plan.metadata.signals := by
  rw [ruled.metadata]

/-- The problems of a report are those of the signals and the refusal of a new plan. -/
theorem hasSignalsProblems_iff (ruled : plan.Ruled settings environment report) :
    report.hasSignalsProblems = true ↔
      Signals.reportProblems plan.metadata.signals = true ∨
        plan.Refused settings environment report.cancelled := by
  rw [ruled.hasSignalsProblems, Plan.rulingAfter, Ruling.hasProblems_of, Bool.or_eq_true,
    Ruling.limitReached_of_iff, Plan.Refused]

theorem isClean_iff (ruled : plan.Ruled settings environment report) :
    report.isClean = true ↔
      (∀ step ∈ (plan.run settings environment).plan.steps, step.Fulfils) ∧
        Signals.reportProblems plan.metadata.signals = false := by
  have clean : report.isClean = true ↔
      (plan.rulingAfter settings environment report.cancelled).conclusion = .complete ∧
        (plan.rulingAfter settings environment report.cancelled).hasProblems = false := by
    rw [← ruled.conclusion, ← ruled.hasSignalsProblems]
    simp [Report.isClean, Report.isComplete]
  rw [clean, Plan.rulingAfter, Ruling.complete_without_problems_iff, Plan.tallyAfter,
    Plan.conclusion_tally_eq_complete_iff]

end Plan.Ruled

/--
A report is clean exactly if every step has succeeded, or is optional and has failed, and the
signals report no problem. A brief is handed out exactly if a new plan is asked for. The status of
the plan tells the three conclusions apart. Problems are reported exactly if the signals report some
or a new plan was refused, in which case the report is not clean.
-/
theorem clean_hides_nothing (outcome : (plan.run settings environment).outcome = .ok report) :
    (report.isClean = true ↔
      (∀ step ∈ (plan.run settings environment).plan.steps,
        step.status = .succeeded ∨ step.optional = true ∧ step.status = .failed) ∧
      Signals.reportProblems (plan.run settings environment).plan.metadata.signals = false) ∧
    (report.brief.isSome = true ↔ report.conclusion = .needsReplan) ∧
    ((plan.run settings environment).plan.status = .completed ↔ report.conclusion = .complete) ∧
    ((plan.run settings environment).plan.status = .needsReplan ↔
      report.conclusion = .needsReplan) ∧
    ((plan.run settings environment).plan.status = .deadlocked ↔
      report.conclusion = .deadlock) ∧
    (report.hasSignalsProblems = true ↔
      Signals.reportProblems (plan.run settings environment).plan.metadata.signals = true ∨
        plan.Refused settings environment report.cancelled) := by
  have ruled := Plan.ruled_of_run_ok outcome
  have reported := Plan.reported_of_run_ok outcome
  rw [ruled.signals, reported.brief, reported.status]
  refine ⟨ruled.isClean_iff, ?_, ?_, ?_, ?_, ruled.hasSignalsProblems_iff⟩
  · split <;> simp [*]
  all_goals cases report.conclusion <;> simp [Plan.statusAfter]

/-- Settings that grant no new plan at all. -/
def frugalSettings : Settings :=
  { maxReplansPerPlan := 0 }

/-- A success is clean, and a failure that is refused a new plan is complete but not clean. -/
theorem clean_hides_nothing_poster :
    (∃ report, ((Lineage.posterPlan none 0 .null).run {}
        (Lineage.posterWorld (.success .null))).outcome = .ok report ∧ report.isClean = true) ∧
    ∃ report, ((Lineage.posterPlan none 0 .null).run frugalSettings
        (Lineage.posterWorld (.failure "jam"))).outcome = .ok report ∧
      report.conclusion = .complete ∧ ¬report.isClean = true ∧ ¬report.brief.isSome = true ∧
      report.hasSignalsProblems = true := by
  constructor
  · have seen : ((Lineage.posterPlan none 0 .null).run {}
        (Lineage.posterWorld (.success .null))).outcome.toOption.map
          (·.cancelled) = some false := by decide +kernel
    obtain ⟨report, outcome, -⟩ := Run.exists_of_seen seen
    obtain ⟨isClean_iff, -⟩ := clean_hides_nothing outcome
    exact ⟨report, outcome, isClean_iff.2 (by decide +kernel)⟩
  · have seen : ((Lineage.posterPlan none 0 .null).run frugalSettings
        (Lineage.posterWorld (.failure "jam"))).outcome.toOption.map
          (fun report => (report.conclusion, report.cancelled)) = some (.complete, false) := by
      decide +kernel
    obtain ⟨report, outcome, view⟩ := Run.exists_of_seen seen
    obtain ⟨complete, uncancelled⟩ := Prod.mk.inj view
    obtain ⟨isClean_iff, brief_iff, -, -, -, problems_iff⟩ := clean_hides_nothing outcome
    refine ⟨report, outcome, complete, fun clean => ?_, fun isSome => ?_,
      problems_iff.2 (.inr ⟨.inl ?_, by decide⟩)⟩
    · exact absurd (isClean_iff.1 clean).1 (by decide +kernel)
    · simp [brief_iff.1 isSome] at complete
    · rw [uncancelled]
      decide +kernel

end PlanRunner
