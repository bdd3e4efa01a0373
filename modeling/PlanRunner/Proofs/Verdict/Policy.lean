import Mathlib.Data.List.Perm.Basic
import PlanRunner.Proofs.Graph.Dependents
import PlanRunner.Proofs.Plan.Lookup
import PlanRunner.Verdict.Tally

/-!
# The policy

The steps of a plan suggest how a run of it ended. The plan is complete if every step has succeeded,
or is optional and has failed. It is deadlocked if some step was skipped, and every failure that
counts is a dead end: it may not be retried, and all that waits for it was skipped. In any other
case it needs a new plan. This does not depend on the order of the steps, and the lists of a tally
share the steps out.
-/

namespace PlanRunner

open Relation

variable {plan other : Plan} {step : Step} {tally : Tally} {id : String}

/-! ## Complete plans -/

namespace Step

/-- Whether a step did all that a complete plan asks of it: only an optional one may fail. -/
def Fulfils (step : Step) : Prop :=
  step.status = .succeeded ∨ step.optional = true ∧ step.status = .failed

/-- A step does not fulfil its plan if it is a failure that counts, is skipped or is left. -/
theorem fulfils_iff {step : Step} :
    step.Fulfils ↔
      step.isBlockingFailure = false ∧ step.status ≠ .skipped ∧ step.isLeft = false := by
  cases status : step.status <;> simp [Fulfils, isBlockingFailure, isLeft, status]

theorem isBlockingFailure_iff :
    step.isBlockingFailure = true ↔ step.status = .failed ∧ step.optional = false := by
  simp [isBlockingFailure]

/-- A step may not be retried once it has been retried as often as it may be. -/
theorem hasRetryBudget_eq_false_iff {retries : UInt32} :
    step.hasRetryBudget retries = false ↔ step.retryBudget retries ≤ step.retryCount := by
  rw [hasRetryBudget, decide_eq_false_iff_not, UInt32.not_lt]

end Step

/-- The policy calls a plan complete if no failure counts and no step is skipped or left. -/
theorem Tally.conclusion_eq_complete_iff {tally : Tally} :
    tally.conclusion = .complete ↔
      tally.blockingFailures = [] ∧ tally.skipped = [] ∧ tally.pending = [] := by
  unfold conclusion hasBlockingFailures
  constructor
  · intro complete
    split at complete
    · rename_i nothing
      simpa [and_assoc] using nothing
    · split at complete <;> contradiction
  · rintro ⟨noFailure, noSkipped, noPending⟩
    simp [noFailure, noSkipped, noPending]

theorem Plan.idsWhere_eq_nil_iff {property : Step → Bool} :
    plan.idsWhere property = [] ↔ ∀ step ∈ plan.steps, property step = false := by
  simp [idsWhere, List.filter_eq_nil_iff]

theorem Plan.mem_idsWithStatus_iff {status : StepStatus} :
    id ∈ plan.idsWithStatus status ↔ ∃ step ∈ plan.steps, step.id = id ∧ step.status = status := by
  simp only [idsWithStatus, List.mem_map, List.mem_filter, decide_eq_true_eq]
  constructor
  · rintro ⟨step, ⟨member, isStatus⟩, named⟩
    exact ⟨step, member, named, isStatus⟩
  · rintro ⟨step, member, named, isStatus⟩
    exact ⟨step, ⟨member, isStatus⟩, named⟩

theorem Plan.idsWithStatus_eq_nil_iff {status : StepStatus} :
    plan.idsWithStatus status = [] ↔ ∀ step ∈ plan.steps, step.status ≠ status := by
  simp [idsWithStatus, List.filter_eq_nil_iff]

theorem Plan.idsWithStatus_ne_nil_iff {status : StepStatus} :
    plan.idsWithStatus status ≠ [] ↔ ∃ step ∈ plan.steps, step.status = status := by
  rw [Ne, idsWithStatus_eq_nil_iff]
  push Not
  rfl

/-- The steps of a plan suggest that it is complete exactly if all of them fulfil it. -/
theorem Plan.conclusion_tally_eq_complete_iff (retries : UInt32) (cancelled : Bool) :
    (plan.tally retries cancelled).conclusion = .complete ↔
      ∀ step ∈ plan.steps, step.Fulfils := by
  have noFailure : (plan.tally retries cancelled).blockingFailures = [] ↔
      ∀ step ∈ plan.steps, step.isBlockingFailure = false := Plan.idsWhere_eq_nil_iff
  have noneSkipped : (plan.tally retries cancelled).skipped = [] ↔
      ∀ step ∈ plan.steps, step.status ≠ .skipped := Plan.idsWithStatus_eq_nil_iff
  have noneLeft : (plan.tally retries cancelled).pending = [] ↔
      ∀ step ∈ plan.steps, step.isLeft = false := Plan.idsWhere_eq_nil_iff
  rw [Tally.conclusion_eq_complete_iff, noFailure, noneSkipped, noneLeft]
  simp only [Step.fulfils_iff, forall_and]

/-! ## Deadlocks -/

namespace Tally

/-- Something was skipped, and no failed step can lead anywhere. -/
def Hopeless (tally : Tally) : Prop :=
  tally.skipped ≠ [] ∧ tally.viableContinuation = false

instance : Decidable tally.Hopeless :=
  inferInstanceAs (Decidable (_ ∧ _))

/-- What to tell the planner about a run that was cancelled. -/
def cancelledFeedback (tally : Tally) : String :=
  "Execution cancelled with " ++ toString tally.pending.length ++ " step(s) still pending (" ++
    listed tally.pending ++ "); needs replan"

/-- The policy calls the hopeless cases deadlocks, whether or not the run was cancelled. -/
theorem conclusion_eq_deadlock_iff : tally.conclusion = .deadlock ↔ tally.Hopeless := by
  unfold conclusion Hopeless
  constructor
  · intro isDeadlock
    split at isDeadlock
    · contradiction
    · split at isDeadlock
      · rename_i hopeless
        simpa using hopeless
      · contradiction
  · rintro ⟨skipped, notViable⟩
    rw [if_neg (by simp [skipped]), if_pos (by simp [skipped, notViable])]

/-- With steps left, what is not hopeless needs a new plan. -/
theorem conclusion_of_pending (pending : tally.pending ≠ []) (hope : ¬tally.Hopeless) :
    tally.conclusion = .needsReplan := by
  have notDeadlock := mt conclusion_eq_deadlock_iff.1 hope
  unfold conclusion at notDeadlock ⊢
  rw [if_neg (by simp [pending])] at notDeadlock ⊢
  split
  · rename_i hopeless
    simp [hopeless] at notDeadlock
  · rfl

theorem feedback_of_cancelled (cancelled : tally.cancelled = true) (pending : tally.pending ≠ []) :
    tally.feedback .needsReplan = tally.cancelledFeedback := by
  have isSaid : (tally.cancelled && !tally.pending.isEmpty) = true := by simp [cancelled, pending]
  exact if_pos isSaid

end Tally

/-- A failed step is a dead end: it may not be retried, and all that waits for it was skipped. -/
structure Plan.DeadEnd (plan : Plan) (retries : UInt32) (failed : Step) : Prop where
  exhausted : failed.retryBudget retries ≤ failed.retryCount
  abandoned : ∀ step ∈ plan.steps, step.id ≠ failed.id →
    TransGen plan.graph.Leads failed.id step.id → step.status = .skipped

/-- Some step of a plan was skipped, and every failure that counts is a dead end. -/
structure Plan.Hopeless (plan : Plan) (retries : UInt32) : Prop where
  skipped : ∃ step ∈ plan.steps, step.status = .skipped
  deadEnds : ∀ failed ∈ plan.steps, failed.status = .failed → failed.optional = false →
    plan.DeadEnd retries failed

/-- What the walk along the edges finds to be live is a step that waits and was not skipped. -/
theorem Plan.hasLiveDependent_iff (distinct : Step.Distinct plan.steps) :
    plan.hasLiveDependent id = true ↔ ∃ step ∈ plan.steps, step.id ≠ id ∧
      TransGen plan.graph.Leads id step.id ∧ step.status ≠ .skipped := by
  simp only [hasLiveDependent, List.any_eq_true, IdSet.mem_ids, Graph.mem_dependents]
  constructor
  · rintro ⟨dependent, ⟨path, apart⟩, live⟩
    cases found : Step.find? plan.steps dependent with
    | none => simp [found] at live
    | some step =>
        obtain ⟨member, rfl⟩ := Step.mem_of_find?_eq_some found
        exact ⟨step, member, apart, path, by simpa [found] using live⟩
  · rintro ⟨step, member, apart, path, live⟩
    have found := (Step.find?_eq_some_iff distinct).2 ⟨member, rfl⟩
    exact ⟨step.id, ⟨path, apart⟩, by simp [found, live]⟩

/-- A failed step is a dead end if it has no retry left and nothing live waits for it. -/
theorem Plan.deadEnd_iff (distinct : Step.Distinct plan.steps) {retries : UInt32} :
    plan.DeadEnd retries step ↔
      (step.hasRetryBudget retries || plan.hasLiveDependent step.id) = false := by
  rw [Bool.or_eq_false_iff, Step.hasRetryBudget_eq_false_iff, Bool.eq_false_iff, Ne,
    Plan.hasLiveDependent_iff distinct]
  push Not
  exact ⟨fun deadEnd => ⟨deadEnd.exhausted, deadEnd.abandoned⟩, fun parts => ⟨parts.1, parts.2⟩⟩

/-- The tally of a plan is hopeless exactly if the plan is. -/
theorem Plan.hopeless_tally_iff (distinct : Step.Distinct plan.steps) (retries : UInt32)
    (cancelled : Bool) : (plan.tally retries cancelled).Hopeless ↔ plan.Hopeless retries := by
  have skipped : (plan.tally retries cancelled).skipped ≠ [] ↔
      ∃ step ∈ plan.steps, step.status = .skipped := Plan.idsWithStatus_ne_nil_iff
  have notViable : (plan.tally retries cancelled).viableContinuation = false ↔
      ∀ failed ∈ plan.steps, failed.status = .failed → failed.optional = false →
        plan.DeadEnd retries failed := by
    change plan.hasViableContinuation retries = false ↔ _
    simp only [hasViableContinuation, List.any_eq_false, Bool.and_eq_true, not_and,
      Bool.not_eq_true, Step.isBlockingFailure_iff, ← Plan.deadEnd_iff distinct, and_imp]
  rw [Tally.Hopeless, skipped, notViable]
  exact ⟨fun parts => ⟨parts.1, parts.2⟩, fun hopeless => ⟨hopeless.skipped, hopeless.deadEnds⟩⟩

/-! ## The order of the steps -/

/-- The edges of the graph of a plan do not depend on the order of its steps. -/
theorem Plan.leads_eq_of_perm (permuted : plan.steps.Perm other.steps) :
    plan.graph.Leads = other.graph.Leads := by
  funext source target
  simp only [Plan.graph, Graph.leads_ofSteps, permuted.mem_iff]

theorem Plan.Hopeless.of_perm {retries : UInt32} (hopeless : plan.Hopeless retries)
    (permuted : plan.steps.Perm other.steps) : other.Hopeless retries := by
  constructor
  case skipped =>
    obtain ⟨step, member, skipped⟩ := hopeless.skipped
    exact ⟨step, permuted.mem_iff.1 member, skipped⟩
  case deadEnds =>
    intro failed member isFailed required
    have deadEnd := hopeless.deadEnds failed (permuted.mem_iff.2 member) isFailed required
    refine ⟨deadEnd.exhausted, fun step stepMember apart path => ?_⟩
    rw [← Plan.leads_eq_of_perm permuted] at path
    exact deadEnd.abandoned step (permuted.mem_iff.2 stepMember) apart path

/-- Two conclusions are the same if both or none are complete, and both or none a deadlock. -/
theorem Conclusion.eq_of_iff {first second : Conclusion}
    (complete : first = .complete ↔ second = .complete)
    (deadlock : first = .deadlock ↔ second = .deadlock) : first = second := by
  cases first <;> cases second <;> simp_all

/-- The conclusion that the steps suggest does not depend on their order. -/
theorem Plan.conclusion_tally_of_perm (distinct : Step.Distinct plan.steps)
    (permuted : plan.steps.Perm other.steps) (retries : UInt32) (cancelled : Bool) :
    (other.tally retries cancelled).conclusion = (plan.tally retries cancelled).conclusion := by
  have otherDistinct : Step.Distinct other.steps := (permuted.map _).nodup_iff.1 distinct
  refine Conclusion.eq_of_iff ?_ ?_
  · simp only [Plan.conclusion_tally_eq_complete_iff, permuted.mem_iff]
  · rw [Tally.conclusion_eq_deadlock_iff, Tally.conclusion_eq_deadlock_iff,
      Plan.hopeless_tally_iff distinct, Plan.hopeless_tally_iff otherDistinct]
    exact ⟨fun hopeless => hopeless.of_perm permuted.symm,
      fun hopeless => hopeless.of_perm permuted⟩

/-! ## The lists of a tally -/

/-- Every step succeeded, failed in one of two ways, was skipped or is left. -/
theorem Step.shared_perm (steps : List Step) :
    (steps.filter (·.status = .succeeded) ++ steps.filter isBlockingFailure ++
      steps.filter isOptionalFailure ++ steps.filter (·.status = .skipped) ++
        steps.filter isLeft).Perm steps := by
  induction steps with
  | nil => exact .nil
  | cons first rest ih =>
      refine List.perm_iff_count.2 fun step => ?_
      have counts := List.perm_iff_count.1 ih step
      simp only [List.count_append] at counts ⊢
      cases status : first.status with
      | succeeded | skipped | pending | running =>
          simp [isBlockingFailure, isOptionalFailure, isLeft, status, List.count_cons]
          omega
      | failed =>
          cases optional : first.optional with
          | true | false =>
              simp [isBlockingFailure, isOptionalFailure, isLeft, status, optional,
                List.count_cons]
              omega

/-- The identifiers in the lists of a tally. -/
def Tally.ids (tally : Tally) : List String :=
  tally.succeeded ++ tally.blockingFailures ++ tally.optionalFailures ++ tally.skipped ++
    tally.pending

theorem Plan.ids_tally_perm (retries : UInt32) (cancelled : Bool) :
    (plan.tally retries cancelled).ids.Perm (plan.steps.map (·.id)) := by
  have perm := (Step.shared_perm plan.steps).map (·.id)
  simp only [List.map_append] at perm
  exact perm

/--
The steps of a plan suggest that it is complete exactly if every step has succeeded, or is optional
and has failed; that it is deadlocked exactly if it is hopeless; and otherwise that it needs a new
plan. The order of the steps does not matter. The lists of a tally share the steps out.
-/
theorem conclusion_follows_policy (distinct : Step.Distinct plan.steps) (retries : UInt32)
    (cancelled : Bool) :
    ((plan.tally retries cancelled).conclusion = .complete ↔
      ∀ step ∈ plan.steps, step.Fulfils) ∧
    ((plan.tally retries cancelled).conclusion = .deadlock ↔ plan.Hopeless retries) ∧
    ((plan.tally retries cancelled).conclusion = .needsReplan ↔
      (¬∀ step ∈ plan.steps, step.Fulfils) ∧ ¬plan.Hopeless retries) ∧
    (∀ other : Plan, plan.steps.Perm other.steps →
      (other.tally retries cancelled).conclusion = (plan.tally retries cancelled).conclusion) ∧
    (plan.tally retries cancelled).ids.Perm (plan.steps.map (·.id)) ∧
    (plan.tally retries cancelled).ids.Nodup ∧
    (plan.tally retries cancelled).succeeded.length +
      (plan.tally retries cancelled).blockingFailures.length +
      (plan.tally retries cancelled).optionalFailures.length +
      (plan.tally retries cancelled).skipped.length +
      (plan.tally retries cancelled).pending.length = (plan.tally retries cancelled).total := by
  have perm := plan.ids_tally_perm retries cancelled
  have complete := plan.conclusion_tally_eq_complete_iff retries cancelled
  have deadlock : (plan.tally retries cancelled).conclusion = .deadlock ↔
      plan.Hopeless retries := by
    rw [Tally.conclusion_eq_deadlock_iff, Plan.hopeless_tally_iff distinct]
  refine ⟨complete, deadlock, ?needsReplan, fun other permuted => ?unordered, perm,
    perm.nodup_iff.2 distinct, ?counted⟩
  case needsReplan =>
    rw [← complete, ← deadlock]
    cases (plan.tally retries cancelled).conclusion <;> simp
  case unordered => exact Plan.conclusion_tally_of_perm distinct permuted retries cancelled
  case counted =>
    have lengths := perm.length_eq
    simp only [Tally.ids, List.length_append, List.length_map] at lengths
    exact lengths

/--
A channel that could not be dredged, though it was tried as often as its own limit allows. What
depends on it was skipped, and so were two steps that wait for each other. A step depends on one
that is not there.
-/
def harbourPlan : Plan :=
  { Plan.blank with
    id := "harbour"
    steps :=
      [{ Step.new "survey" "sonar" .null with status := .succeeded },
        { (Step.new "dredge" "ship" .null).dependingOn ["survey"] with
          status := .failed, retryCount := 2, maxRetries := some 2 },
        { (Step.new "moor" "buoy" .null).dependingOn ["dredge", "chart"] with status := .skipped },
        { (Step.new "chart" "plot" .null).dependingOn ["moor"] with status := .skipped },
        { Step.new "film" "camera" .null with status := .failed, optional := true },
        { (Step.new "greet" "radio" .null).dependingOn ["pilot"] with status := .running }] }

/-- With more retries for every step it is still its own limit that makes the failure a dead end. -/
theorem conclusion_follows_policy_harbour :
    Step.Distinct harbourPlan.steps ∧ (harbourPlan.tally 5 false).conclusion = .deadlock ∧
    harbourPlan.Hopeless 5 ∧
    (({ harbourPlan with steps := harbourPlan.steps.reverse } : Plan).tally 5 false).conclusion =
      .deadlock ∧
    (harbourPlan.tally 5 false).ids =
      ["survey", "dredge", "film", "moor", "chart", "greet"] := by
  have distinct : Step.Distinct harbourPlan.steps := by
    unfold Step.Distinct
    decide
  have isDeadlock : (harbourPlan.tally 5 false).conclusion = .deadlock := by decide +kernel
  obtain ⟨-, deadlock, -, unordered, -⟩ := conclusion_follows_policy distinct 5 false
  refine ⟨distinct, isDeadlock, deadlock.1 isDeadlock, ?_, by decide +kernel⟩
  rw [unordered _ (List.reverse_perm _).symm, isDeadlock]

end PlanRunner
