import PlanRunner.Proofs.Run.Isolation
import PlanRunner.Proofs.Run.Statuses

/-!
# Why steps are skipped

Which steps can never run is found out before any of them is skipped. An optional step among them
counts as done once it is skipped, and yet the steps behind it are skipped as well. So a skipped
step depends on a step that does not count as done, or on an optional one that was skipped together
with it; and going back from there one comes to a step that failed and was not optional, or to a
cycle.
-/

namespace PlanRunner

open Progress

variable {settings : Settings} {environment : Environment} {plan : Plan} {report : Report}
  {last : Progress} {step : Step}

/-- A step does not count as done for those that depend on it, or does so only as a skipped one. -/
def Step.HoldsUp (step : Step) : Prop :=
  step.satisfiesDependents = false ∨ step.optional = true ∧ step.status = .skipped

theorem Step.holdsUp_of_skipped (skipped : step.status = .skipped) : step.HoldsUp := by
  cases optional : step.optional with
  | false => exact .inl (by rw [satisfiesDependents, skipped, optional])
  | true => exact .inr ⟨optional, skipped⟩

/-- What does not settle holds up the steps that depend on it once the others are skipped. -/
theorem Step.holdsUp_shelve {steps : List Step} (distinct : Distinct steps) (member : step ∈ steps)
    (stuck : ¬Settles steps step.id) : (step.shelve (unreachable steps)).HoldsUp := by
  by_cases pending : step.status = .pending
  · rw [shelve_of_mem ((id_mem_unreachable_iff distinct member).2 ⟨pending, stuck⟩)]
    exact holdsUp_of_skipped rfl
  · have kept : step.id ∉ unreachable steps :=
      fun unreachable => pending ((id_mem_unreachable_iff distinct member).1 unreachable).1
    rw [shelve_of_not_mem kept]
    refine .inl (Bool.eq_false_iff.2 fun satisfies => ?_)
    exact stuck (.done ((find?_eq_some_iff distinct).2 ⟨member, rfl⟩) satisfies)

namespace Plan.Concludes

/-- A run skips only steps that can never run, if none was skipped before. -/
theorem exists_of_skipped (concludes : plan.Concludes settings environment report last)
    (fresh : plan.Fresh) (member : step ∈ (plan.run settings environment).plan.steps)
    (skipped : step.status = .skipped) :
    ∃ old ∈ last.plan.steps, step = { old with status := .skipped } ∧ old.status = .pending ∧
      ¬Step.Settles last.plan.steps old.id := by
  have coherent := concludes.coherent
  rw [concludes.steps, steps_skipUnreachable] at member
  obtain ⟨old, oldMember, rfl⟩ := List.mem_map.1 member
  by_cases unreachable : old.id ∈ Step.unreachable last.plan.steps
  · rw [Step.shelve_of_mem unreachable]
    exact ⟨old, oldMember, rfl, (Step.id_mem_unreachable_iff coherent.distinct oldMember).1
      unreachable⟩
  · rw [Step.shelve_of_not_mem unreachable] at skipped
    obtain ⟨turn, turnMember, same⟩ :=
      coherent.taken_of_not_pending fresh oldMember (by simp [skipped])
    have status := Turn.status_marked (coherent.settled turn turnMember)
    rw [coherent.marked_eq turnMember oldMember same, skipped] at status
    simp at status

end Plan.Concludes

/--
A step that a run skips depends on a step that does not count as done in the end, or on an optional
one that was skipped as well. Behind it, at some distance, there is a step that failed and was not
optional, or a cycle.
-/
theorem skipped_for_cause (fresh : plan.Fresh)
    (outcome : (plan.run settings environment).outcome = .ok report)
    (member : step ∈ (plan.run settings environment).plan.steps)
    (skipped : step.status = .skipped) :
    (∃ dependency ∈ (plan.run settings environment).plan.steps,
      dependency.id ∈ step.dependencies ∧ dependency.HoldsUp) ∧
    ((plan.run settings environment).plan.BehindFailure step.id ∨
      plan.graph.BehindCycle step.id) := by
  obtain ⟨last, concludes⟩ := Plan.concludes_of_run_ok outcome
  obtain ⟨old, oldMember, rfl, pending, stuck⟩ :=
    concludes.exists_of_skipped fresh member skipped
  have origin := concludes.behindFailure_or_behindCycle fresh oldMember pending stuck
  obtain ⟨dependency, dependencyMember, depends, isStuck⟩ :=
    concludes.exists_stuck_dependency oldMember pending stuck
  refine ⟨?_, origin⟩
  refine ⟨dependency.shelve (Step.unreachable last.plan.steps), ?_, ?_, ?_⟩
  · rw [concludes.steps, Plan.steps_skipUnreachable]
    exact List.mem_map_of_mem dependencyMember
  · rwa [Step.id_shelve]
  · exact Step.holdsUp_shelve concludes.coherent.distinct dependencyMember isStuck

/-- A journey that is insured once it is booked, if the insurer is asked at all. -/
def journeyPlan : Plan :=
  { Plan.blank with
    id := "journey"
    steps :=
      [Step.new "book" "reserve" .null,
        { (Step.new "insure" "offer" .null).dependingOn ["book"] with optional := true },
        (Step.new "confirm" "mail" .null).dependingOn ["insure"]] }

/-- A world in which the journey is not booked. -/
def journeyWorld : Environment :=
  Rehearsal.environment
    { context := {}
      scripts := [("book", [⟨5, .failure "sold out"⟩])]
      cancelAt := none
      cuesResolver := false } "run" default

/-- The steps of the journey after a run, with what matters for those that depend on them. -/
theorem steps_run_journey :
    (journeyPlan.run {} journeyWorld).outcome.toOption.isSome = true ∧
    (journeyPlan.run {} journeyWorld).plan.steps.map
        (fun step => (step.id, step.status, step.satisfiesDependents)) =
      [("book", .failed, false), ("insure", .skipped, true), ("confirm", .skipped, false)] := by
  decide +kernel

/-- The confirmation is skipped for an insurance that was skipped for a booking that failed. -/
theorem skipped_for_cause_journey :
    ∃ report, journeyPlan.Fresh ∧ (journeyPlan.run {} journeyWorld).outcome = .ok report ∧
      ∃ step ∈ (journeyPlan.run {} journeyWorld).plan.steps, step.id = "confirm" ∧
        step.status = .skipped ∧
        (∃ dependency ∈ (journeyPlan.run {} journeyWorld).plan.steps,
          dependency.id ∈ step.dependencies ∧ dependency.HoldsUp) ∧
        ((journeyPlan.run {} journeyWorld).plan.BehindFailure "confirm" ∨
          journeyPlan.graph.BehindCycle "confirm") := by
  have fresh : journeyPlan.Fresh := by
    unfold Plan.Fresh
    decide
  obtain ⟨isOk, steps⟩ := steps_run_journey
  cases outcome : (journeyPlan.run {} journeyWorld).outcome with
  | error error =>
      rw [outcome] at isOk
      contradiction
  | ok report =>
      have listed : ("confirm", StepStatus.skipped, false) ∈
          (journeyPlan.run {} journeyWorld).plan.steps.map
            (fun step => (step.id, step.status, step.satisfiesDependents)) := by
        rw [steps]
        decide
      obtain ⟨step, member, same⟩ := List.mem_map.1 listed
      obtain ⟨named, status, -⟩ := by simpa only [Prod.mk.injEq] using same
      obtain ⟨cause, origin⟩ := skipped_for_cause fresh outcome member status
      exact ⟨report, fresh, rfl, step, member, named, status, cause, named ▸ origin⟩

/-- All that the confirmation depends on counts as done, and still it is skipped. -/
theorem skipped_though_dependencies_done :
    journeyPlan.validate = .ok () ∧ (∀ step ∈ journeyPlan.steps, step.status = .pending) ∧
    (journeyPlan.run {} journeyWorld).outcome.toOption.isSome = true ∧
    ∃ step ∈ (journeyPlan.run {} journeyWorld).plan.steps, step.status = .skipped ∧
      ∀ dependency ∈ (journeyPlan.run {} journeyWorld).plan.steps,
        dependency.id ∈ step.dependencies → dependency.satisfiesDependents = true := by
  decide +kernel

end PlanRunner
