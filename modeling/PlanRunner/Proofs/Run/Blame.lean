import PlanRunner.Proofs.Run.Causes

/-!
# What a deadlock is put down to

After a deadlock the skipped steps are those behind a failure that counts, and those behind a cycle.
The report lists all of them, and puts them down to the failures if there are any: a cycle is looked
for only where there are none. So the steps that it lists wait for a failure that it names unless
they are behind a cycle, and it may name failures that none of them waits for.
-/

namespace PlanRunner

open Relation Progress

variable {settings : Settings} {environment : Environment} {plan : Plan} {report : Report}
  {last : Progress} {step : Step} {tally : Tally} {id : String}

namespace Plan.Concludes

/-- A run leaves its plan valid. -/
theorem valid_run (concludes : plan.Concludes settings environment report last) :
    (plan.run settings environment).plan.Valid :=
  concludes.valid.of_design concludes.design.symm

/-- All that waits for a failure that counts is skipped, where such failures are dead ends. -/
theorem skipped_of_behindFailure (concludes : plan.Concludes settings environment report last)
    (fresh : plan.Fresh)
    (hopeless : (plan.run settings environment).plan.Hopeless settings.maxRetries)
    (behind : (plan.run settings environment).plan.BehindFailure id) :
    id ∈ (plan.run settings environment).plan.idsWithStatus .skipped := by
  obtain ⟨failed, failedMember, failure, path⟩ := behind
  obtain ⟨before, -, leads⟩ := TransGen.tail'_iff.1 path
  obtain ⟨step, member, rfl⟩ := List.mem_map.1 (concludes.valid_run.mem_nodes_of_leads leads).2
  by_cases same : step.id = failed.id
  · rw [same, Plan.graph_eq_of_design concludes.design] at path
    exact concludes.skipped_of_behindCycle fresh ⟨failed.id, path, same ▸ .refl⟩
  · obtain ⟨isFailed, required⟩ := Step.isBlockingFailure_iff.1 failure
    have deadEnd := hopeless.deadEnds failed failedMember isFailed required
    have abandoned := deadEnd.abandoned step member same path
    exact Plan.mem_idsWithStatus_iff.2 ⟨step, member, rfl, abandoned⟩

/-- After a deadlock the skipped steps are those behind a failure that counts or a cycle. -/
theorem mem_skipped_iff (concludes : plan.Concludes settings environment report last)
    (fresh : plan.Fresh)
    (hopeless : (plan.run settings environment).plan.Hopeless settings.maxRetries) :
    id ∈ (plan.run settings environment).plan.idsWithStatus .skipped ↔
      (plan.run settings environment).plan.BehindFailure id ∨ plan.graph.BehindCycle id := by
  constructor
  · exact concludes.origin_of_skipped fresh
  · rintro (behind | behind)
    · exact concludes.skipped_of_behindFailure fresh hopeless behind
    · exact concludes.skipped_of_behindCycle fresh behind

/-- What is behind a failure, but not behind a cycle, depends on another step that failed. -/
theorem exists_failed (concludes : plan.Concludes settings environment report last)
    (behind : (plan.run settings environment).plan.BehindFailure id)
    (acyclic : ¬plan.graph.BehindCycle id) :
    ∃ failed ∈ (plan.run settings environment).plan.idsWhere Step.isBlockingFailure,
      id ∈ plan.graph.dependents failed := by
  obtain ⟨failed, member, failure, path⟩ := behind
  rw [Plan.graph_eq_of_design concludes.design] at path
  refine ⟨failed.id, List.mem_map_of_mem (List.mem_filter.2 ⟨member, failure⟩), ?_⟩
  refine Graph.mem_dependents.2 ⟨path, fun same => ?_⟩
  exact acyclic ⟨id, same ▸ path, .refl⟩

end Plan.Concludes

/-- How failures are named. -/
def Tally.failureCause (failures : List String) : String :=
  "failed step(s) " ++ listed failures

/-- As long as a failure counts, a deadlock is put down to all the failures that do. -/
theorem Tally.deadlockCause_of_failures (failures : tally.blockingFailures ≠ []) :
    tally.deadlockCause = failureCause tally.blockingFailures := by
  have hasFailures : tally.hasBlockingFailures = true := by simp [hasBlockingFailures, failures]
  rw [deadlockCause, if_pos hasFailures]
  rfl

/--
The steps that a report of a deadlock lists, if none was over before the run, are those behind a
failure that counts and those behind a cycle. If a failure counts, the report puts them all down to
the failures, and those behind no cycle depend on one of the failures it names. If none does, all of
them are behind a cycle, and the report names a cycle whose steps are among them.
-/
theorem deadlock_blames_failures_first (fresh : plan.Fresh)
    (outcome : (plan.run settings environment).outcome = .ok report)
    (isDeadlock : report.conclusion = .deadlock) :
    report.skippedSteps ≠ [] ∧
    (∀ id, id ∈ report.skippedSteps ↔
      (plan.run settings environment).plan.BehindFailure id ∨ plan.graph.BehindCycle id) ∧
    ((plan.run settings environment).plan.idsWhere Step.isBlockingFailure ≠ [] →
      report.Blames (Tally.failureCause
        ((plan.run settings environment).plan.idsWhere Step.isBlockingFailure)) ∧
      ∀ id ∈ report.skippedSteps, ¬plan.graph.BehindCycle id →
        ∃ failed ∈ (plan.run settings environment).plan.idsWhere Step.isBlockingFailure,
          id ∈ plan.graph.dependents failed) ∧
    ((plan.run settings environment).plan.idsWhere Step.isBlockingFailure = [] →
      (∀ id ∈ report.skippedSteps, plan.graph.BehindCycle id) ∧
      ∃ cycle, plan.graph.ClosedPath cycle ∧ (∀ id ∈ cycle, id ∈ report.skippedSteps) ∧
        report.Blames (Tally.cycleCause cycle)) := by
  obtain ⟨last, concludes⟩ := Plan.concludes_of_run_ok outcome
  obtain ⟨isHopeless, blames⟩ := Plan.blames_of_deadlock outcome isDeadlock
  have hopeless := (Plan.hopeless_tally_iff concludes.valid_run.distinct _ _).1 isHopeless
  have skipped := (Plan.reported_of_run_ok outcome).skipped
  have origins : ∀ id, id ∈ report.skippedSteps ↔
      (plan.run settings environment).plan.BehindFailure id ∨ plan.graph.BehindCycle id := by
    intro id
    rw [skipped]
    exact concludes.mem_skipped_iff fresh hopeless
  refine ⟨skipped ▸ isHopeless.1, origins, fun failures => ⟨?named, ?waiting⟩, fun none => ?_⟩
  case named => rwa [Tally.deadlockCause_of_failures failures] at blames
  case waiting =>
    intro id listed acyclic
    exact concludes.exists_failed (((origins id).1 listed).resolve_right acyclic) acyclic
  have unfailed := Plan.idsWhere_eq_nil_iff.1 none
  constructor
  · refine fun id listed => ((origins id).1 listed).resolve_left ?_
    rintro ⟨failed, member, failure, -⟩
    rw [unfailed failed member] at failure
    contradiction
  · obtain ⟨cycle, -, closed, allSkipped, names⟩ :=
      concludes.cycle_of_deadlock fresh outcome isDeadlock unfailed
    exact ⟨cycle, closed, skipped ▸ allSkipped, names⟩

/-- A ball at which two dancers wait for each other, with music, and with more dances. -/
def ballPlan (dances : List Step) : Plan :=
  { Plan.blank with
    id := "ball"
    steps :=
      [Step.new "music" "band" .null,
        (Step.new "lead" "bow" .null).dependingOn ["follow"],
        (Step.new "follow" "bow" .null).dependingOn ["lead"]] ++ dances }

/-- A dance that waits for the music. -/
def waltz : Step := (Step.new "waltz" "dance" .null).dependingOn ["music"]

/-- A world in which the music fails. -/
def ballWorld : Environment :=
  Rehearsal.environment
    { context := {}
      scripts := [("music", [⟨5, .failure "no band"⟩])]
      cancelAt := none
      cuesResolver := false } "run" default

/-- The music is named as what the waltz waits for. -/
theorem deadlock_blames_failures_first_ball :
    (ballPlan [waltz]).Fresh ∧ ∃ report,
      ((ballPlan [waltz]).run {} ballWorld).outcome = .ok report ∧
      report.conclusion = .deadlock ∧ report.skippedSteps = ["lead", "follow", "waltz"] ∧
      report.Blames (Tally.failureCause ["music"]) ∧
      ¬(ballPlan [waltz]).graph.BehindCycle "waltz" ∧
      ∃ failed ∈ ["music"], "waltz" ∈ (ballPlan [waltz]).graph.dependents failed := by
  have fresh : (ballPlan [waltz]).Fresh := by
    unfold Plan.Fresh
    decide
  have unstarted : (ballPlan [waltz]).Unstarted := by
    unfold Plan.Unstarted
    decide
  have valid : (ballPlan [waltz]).Valid := Plan.validate_eq_ok.1 rfl
  have acyclic : ¬(ballPlan [waltz]).graph.BehindCycle "waltz" := by
    rw [← unstarted.mem_unreachable_iff valid]
    decide +kernel
  have failures : ((ballPlan [waltz]).run {} ballWorld).plan.idsWhere Step.isBlockingFailure =
      ["music"] := by decide +kernel
  have seen : ((ballPlan [waltz]).run {} ballWorld).outcome.toOption.map (fun report =>
      (report.conclusion, report.skippedSteps)) =
        some (.deadlock, ["lead", "follow", "waltz"]) := by decide +kernel
  obtain ⟨report, outcome, told⟩ := Run.exists_of_seen seen
  obtain ⟨isDeadlock, listed⟩ := Prod.mk.inj told
  obtain ⟨-, -, blames, -⟩ := deadlock_blames_failures_first fresh outcome isDeadlock
  rw [failures] at blames
  obtain ⟨names, waiting⟩ := blames (List.cons_ne_nil _ _)
  exact ⟨fresh, report, outcome, isDeadlock, listed, names, acyclic,
    waiting "waltz" (by simp [listed]) acyclic⟩

/-- The dancers wait for each other and not for the music, and yet the music is blamed. -/
theorem failure_blamed_for_cycle :
    (ballPlan []).validate = .ok () ∧ (∀ step ∈ (ballPlan []).steps, step.status = .pending) ∧
    (((ballPlan []).run {} ballWorld).outcome.toOption.map fun report =>
      (report.cancelled, report.conclusion, report.skippedSteps, report.feedback)) =
        some (false, .deadlock, ["lead", "follow"],
          "Plan deadlock: step(s) lead, follow can never run because of failed step(s) music") ∧
    ((ballPlan []).run {} ballWorld).plan.idsWhere Step.isBlockingFailure = ["music"] ∧
    ¬TransGen (ballPlan []).graph.Leads "music" "lead" ∧
    ¬TransGen (ballPlan []).graph.Leads "music" "follow" ∧
    (ballPlan []).graph.findCycle = some ["lead", "follow", "lead"] := by
  have notWaiting : ∀ dancer ∈ ["lead", "follow"],
      ¬TransGen (ballPlan []).graph.Leads "music" dancer := by
    intro dancer member path
    have apart : dancer ≠ "music" := by
      rintro rfl
      simp at member
    have waits := Graph.mem_dependents.2 ⟨path, apart⟩
    have nothing : ((ballPlan []).graph.dependents "music").ids = [] := by decide +kernel
    rw [← IdSet.mem_ids, nothing] at waits
    contradiction
  refine ⟨rfl, by decide, by decide +kernel, by decide +kernel, notWaiting "lead" (by simp),
    notWaiting "follow" (by simp), by cbv⟩

end PlanRunner
