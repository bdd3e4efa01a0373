import PlanRunner.Proofs.Graph.Cycles
import PlanRunner.Proofs.Plan.Unreachable
import PlanRunner.Proofs.Run.Skips
import PlanRunner.Proofs.Verdict.Policy

/-!
# What a run gives as its cause

A run that asks for a new plan says why: for the first failure that counts, else because it was
cancelled with steps left, else for what the signals say. A run that comes to a deadlock without a
failure that counts has skipped all steps of a cycle, and names one. There is no run for which the
cause is unknown.
-/

namespace PlanRunner

open Relation Progress

variable {settings : Settings} {environment : Environment} {plan : Plan} {report : Report}
  {last : Progress} {step : Step} {tally : Tally} {id : String}

/-! ## Signals -/

namespace Signals

variable {signals : Signals}

theorem listPart_eq_nil_iff {label : String} {entries : List String} :
    listPart label entries = [] ↔ entries = [] := by
  unfold listPart
  split <;> simp_all

/-- Signals that report problems are those that have something to say. -/
theorem parts_eq_nil_iff : signals.parts = [] ↔ signals.hasProblems = false := by
  simp [parts, hasProblems, listPart_eq_nil_iff, and_assoc]

theorem ne_empty_of_mem_parts {part : String} (member : part ∈ signals.parts) : part ≠ "" := by
  simp only [parts, listPart, List.mem_append, Option.mem_toList, Option.map_eq_some_iff]
    at member
  rintro rfl
  rcases member with ((needs | ⟨next, -, suggested⟩) | errors) | paths
  · split at needs <;> simp_all
  · simp at suggested
  · split at errors <;> simp_all
  · split at paths <;> simp_all

/-- A summary is empty exactly if no problem is reported. -/
theorem summary_eq_empty_iff : signals.summary = "" ↔ signals.hasProblems = false := by
  rw [← parts_eq_nil_iff, summary]
  cases parts : signals.parts with
  | nil => simp
  | cons first rest =>
      have said : first ≠ "" := ne_empty_of_mem_parts (parts ▸ List.mem_cons_self)
      cases rest with
      | nil => simpa using said
      | cons second rest => simp [String.intercalate_cons_cons, said]

theorem summaryOf_ne_empty {signals : Option Signals} (problems : reportProblems signals = true) :
    summaryOf signals ≠ "" := by
  cases signals with
  | none => contradiction
  | some signals =>
      intro isEmpty
      have noProblems := summary_eq_empty_iff.1 isEmpty
      simp [reportProblems, noProblems] at problems

end Signals

/-! ## New plans -/

namespace Replan

/--
What a plan after a run gives as the cause of a new plan: the first failure that counts; without
one, that the run was cancelled with steps left; and else what the signals say.
-/
inductive Explains (plan : Plan) (cancelled : Bool) : String → Prop where
  | failure {first : Step} (isFirst : plan.steps.find? Step.isBlockingFailure = some first) :
      Explains plan cancelled (first.id ++ ": " ++ first.error.getD "unknown error")
  | cancellation (unfailed : ∀ step ∈ plan.steps, step.isBlockingFailure = false)
      (isCancelled : cancelled = true) (left : ∃ step ∈ plan.steps, step.status = .pending) :
      Explains plan cancelled "cancelled"
  | signals (unfailed : ∀ step ∈ plan.steps, step.isBlockingFailure = false)
      (uncancelled : cancelled = false) (said : Signals.summaryOf plan.metadata.signals ≠ "") :
      Explains plan cancelled ("signals: " ++ Signals.summaryOf plan.metadata.signals)

/-- Whatever has a colon is a cause. -/
theorem ne_unknown_of_colon (before after : String) : before ++ ": " ++ after ≠ "unknown" := by
  intro same
  have colon : ':' ∈ (before ++ ": " ++ after).toList := by
    simp [String.toList_append]
  rw [same] at colon
  exact absurd colon (by decide)

/-- What explains a new plan is never that the cause is unknown. -/
theorem Explains.ne_unknown {cancelled : Bool} {cause : String}
    (explains : Explains plan cancelled cause) : cause ≠ "unknown" := by
  cases explains with
  | failure isFirst => exact ne_unknown_of_colon _ _
  | cancellation unfailed isCancelled left => decide
  | signals unfailed uncancelled said => exact ne_unknown_of_colon "signals" _

/-- The cause that a brief gives explains a new plan, if what is asked for is one. -/
theorem explains_primaryCause {cancelled : Bool}
    (left : cancelled = true → ∃ step ∈ plan.steps, step.status = .pending)
    (asked : cancelled = false → (∀ step ∈ plan.steps, step.isBlockingFailure = false) →
      Signals.reportProblems plan.metadata.signals = true) :
    Explains plan cancelled (brief plan cancelled).primaryCause := by
  change Explains plan cancelled
    (primaryCause (failedSteps plan) plan.metadata.signals cancelled)
  cases failures : plan.steps.filter Step.isBlockingFailure with
  | cons first rest =>
      have isFirst : plan.steps.find? Step.isBlockingFailure = some first := by
        rw [← List.head?_filter, failures, List.head?_cons]
      simp only [failedSteps, failures, List.map_cons, primaryCause]
      exact .failure isFirst
  | nil =>
      have unfailed : ∀ step ∈ plan.steps, step.isBlockingFailure = false := by
        simpa [List.filter_eq_nil_iff] using failures
      simp only [failedSteps, failures, List.map_nil, primaryCause]
      cases cancelled with
      | true => exact .cancellation unfailed rfl (left rfl)
      | false =>
          have problems := asked rfl unfailed
          rw [if_neg Bool.false_ne_true, if_pos problems]
          exact .signals unfailed rfl (Signals.summaryOf_ne_empty problems)

end Replan

/-- Where nothing is left, only a failure that counts makes the steps ask for a new plan. -/
theorem Plan.conclusion_ne_needsReplan (allOver : ∀ step ∈ plan.steps, step.isLeft = false)
    (unfailed : ∀ step ∈ plan.steps, step.isBlockingFailure = false) (retries : UInt32)
    (cancelled : Bool) : (plan.tally retries cancelled).conclusion ≠ .needsReplan := by
  by_cases skipped : ∃ step ∈ plan.steps, step.status = .skipped
  · have hopeless : (plan.tally retries cancelled).Hopeless := by
      refine ⟨Plan.idsWithStatus_ne_nil_iff.2 skipped, ?_⟩
      refine List.any_eq_false.2 fun step member => ?_
      simp [unfailed step member]
    simp [Tally.conclusion_eq_deadlock_iff.2 hopeless]
  · have complete : (plan.tally retries cancelled).conclusion = .complete := by
      refine (plan.conclusion_tally_eq_complete_iff retries cancelled).2 fun step member => ?_
      exact Step.fulfils_iff.2 ⟨unfailed step member, fun isSkipped =>
        skipped ⟨step, member, isSkipped⟩, allOver step member⟩
    simp [complete]

/-- A run that asks for a new plan explains it. -/
theorem Plan.Concludes.explains (concludes : plan.Concludes settings environment report last)
    (ruled : plan.Ruled settings environment report)
    (isReplan : report.conclusion = .needsReplan) :
    Replan.Explains (plan.run settings environment).plan report.cancelled
      (Replan.brief (plan.run settings environment).plan report.cancelled).primaryCause := by
  refine Replan.explains_primaryCause concludes.exists_pending fun uncancelled unfailed => ?_
  have allOver : ∀ step ∈ (plan.run settings environment).plan.steps, step.isLeft = false := by
    intro step member
    simpa [Step.isLeft] using concludes.isOver uncancelled member
  rw [ruled.conclusion, Plan.rulingAfter, Ruling.conclusion_eq_needsReplan_iff] at isReplan
  rcases isReplan.1 with asksItself | ⟨-, problems⟩
  · exact absurd asksItself (Plan.conclusion_ne_needsReplan allOver unfailed _ _)
  · rwa [ruled.metadata]

/-! ## Deadlocks -/

/-- What a report of a deadlock says, if it puts the deadlock down to a cause. -/
def Report.Blames (report : Report) (cause : String) : Prop :=
  report.feedback = "Plan deadlock: step(s) " ++ Tally.listed report.skippedSteps ++
    " can never run because of " ++ cause

/-- A deadlock is one that the steps suggest, and its cause is told as their tally has it. -/
theorem Plan.blames_of_deadlock
    (outcome : (plan.run settings environment).outcome = .ok report)
    (isDeadlock : report.conclusion = .deadlock) :
    (plan.tallyAfter settings environment report.cancelled).Hopeless ∧
      report.Blames (plan.tallyAfter settings environment report.cancelled).deadlockCause := by
  have ruled := Plan.ruled_of_run_ok outcome
  have tentative : (plan.tallyAfter settings environment report.cancelled).conclusion =
      .deadlock := by
    rwa [ruled.conclusion, Plan.rulingAfter, Ruling.conclusion_eq_deadlock_iff] at isDeadlock
  refine ⟨Tally.conclusion_eq_deadlock_iff.1 tentative, ?_⟩
  have content : ¬Ruling.Asks .deadlock plan.metadata.signals := by simp [Ruling.Asks]
  have feedback := (Ruling.of_not_asks
    ((plan.tallyAfter settings environment report.cancelled).feedback .deadlock)
    ⟨plan.metadata.replansCount, settings.maxReplansPerPlan⟩ content).2.1
  rw [Report.Blames, ruled.feedback, Plan.rulingAfter, tentative, feedback,
    (Plan.reported_of_run_ok outcome).skipped]
  rfl

namespace Plan.Concludes

/-- What settles after the last batch can be reached from below in finitely many steps. -/
theorem acc_of_settles (concludes : plan.Concludes settings environment report last)
    (fresh : plan.Fresh) (settles : Step.Settles last.plan.steps id) :
    Acc plan.graph.Leads id := by
  have coherent := concludes.coherent
  induction settles with
  | @done id step found satisfies =>
      obtain ⟨member, rfl⟩ := Step.mem_of_find?_eq_some found
      obtain ⟨turn, turnMember, same⟩ := coherent.taken_of_not_pending fresh member
        (Step.not_pending_of_satisfiesDependents satisfies)
      exact same ▸ acc_of_reaches concludes.valid fresh concludes.reaches turn turnMember
  | inFlight found running =>
      exact absurd running (coherent.idle _ (Step.mem_of_find?_eq_some found).1)
  | @waiting id step found pending dependencies ih =>
      obtain ⟨member, rfl⟩ := Step.mem_of_find?_eq_some found
      refine .intro _ fun source leads => ?_
      obtain ⟨other, otherMember, same, depends⟩ := coherent.leads_iff.1 leads
      rw [coherent.distinct.eq_of_id_eq otherMember member same] at depends
      exact ih source depends

/-- A step behind a cycle is skipped, if no step was over before the run. -/
theorem skipped_of_behindCycle (concludes : plan.Concludes settings environment report last)
    (fresh : plan.Fresh) (behind : plan.graph.BehindCycle id) :
    id ∈ (plan.run settings environment).plan.idsWithStatus .skipped := by
  have coherent := concludes.coherent
  obtain ⟨step, member, rfl⟩ : ∃ step ∈ last.plan.steps, step.id = id := by
    have isNode := concludes.valid.mem_nodes_of_behindCycle behind
    rw [coherent.nodes] at isNode
    exact List.mem_map.1 isNode
  have stuck : ¬Step.Settles last.plan.steps step.id := fun settles =>
    Graph.not_behindCycle_of_acc (concludes.acc_of_settles fresh settles) behind
  have pending : step.status = .pending := by
    by_contra begun
    obtain ⟨turn, turnMember, same⟩ := coherent.taken_of_not_pending fresh member begun
    have accessible := acc_of_reaches concludes.valid fresh concludes.reaches turn turnMember
    exact Graph.not_behindCycle_of_acc (same ▸ accessible) behind
  have unreachable := (Step.id_mem_unreachable_iff coherent.distinct member).2 ⟨pending, stuck⟩
  refine Plan.mem_idsWithStatus_iff.2 ⟨step.shelve (Step.unreachable last.plan.steps), ?_, ?_, ?_⟩
  · rw [concludes.steps, Plan.steps_skipUnreachable]
    exact List.mem_map_of_mem member
  · exact Step.id_shelve _ _
  · rw [Step.shelve_of_mem unreachable]

/-- All that a run skips is behind a cycle or a failure, if no step was over before the run. -/
theorem origin_of_skipped (concludes : plan.Concludes settings environment report last)
    (fresh : plan.Fresh)
    (skipped : id ∈ (plan.run settings environment).plan.idsWithStatus .skipped) :
    (plan.run settings environment).plan.BehindFailure id ∨ plan.graph.BehindCycle id := by
  obtain ⟨step, member, rfl, isSkipped⟩ := Plan.mem_idsWithStatus_iff.1 skipped
  obtain ⟨old, oldMember, rfl, pending, stuck⟩ :=
    concludes.exists_of_skipped fresh member isSkipped
  exact (concludes.behindFailure_or_behindCycle fresh oldMember pending stuck :)

/-- Where a step is behind a cycle, one is found, and all of its steps are skipped. -/
theorem exists_cycle (concludes : plan.Concludes settings environment report last)
    (fresh : plan.Fresh) (behind : plan.graph.BehindCycle id) :
    ∃ cycle, plan.graph.findCycle = some cycle ∧ plan.graph.ClosedPath cycle ∧
      ∀ id ∈ cycle, id ∈ (plan.run settings environment).plan.idsWithStatus .skipped := by
  obtain ⟨other, around, -⟩ := behind
  obtain ⟨before, -, leads⟩ := TransGen.tail'_iff.1 around
  have reachable : plan.graph.Reachable other :=
    .of_mem (concludes.valid.mem_nodes_of_leads leads).2
  cases found : plan.graph.findCycle with
  | none => exact absurd around (Graph.findCycle_eq_none_iff.1 found other reachable)
  | some cycle =>
      obtain ⟨closed, -⟩ := Graph.closedPath_of_findCycle found
      refine ⟨cycle, rfl, closed, fun id member => ?_⟩
      exact concludes.skipped_of_behindCycle fresh ⟨id, closed.transGen_self member, .refl⟩

end Plan.Concludes

/-- Where no failure counts but a step was skipped, a tally looks for a cycle. -/
theorem Plan.cycle_tally (unfailed : ∀ step ∈ plan.steps, step.isBlockingFailure = false)
    (skipped : plan.idsWithStatus .skipped ≠ []) (retries : UInt32) (cancelled : Bool) :
    (plan.tally retries cancelled).cycle = plan.graph.findCycle := by
  have noFailure : plan.idsWhere Step.isBlockingFailure = [] :=
    Plan.idsWhere_eq_nil_iff.2 unfailed
  simp [tally, noFailure, skipped]

/-- How a cycle is named. -/
def Tally.cycleCause (cycle : List String) : String :=
  "dependency cycle " ++ String.intercalate " -> " cycle

theorem Tally.deadlockCause_of_cycle {cycle : List String} (unfailed : tally.blockingFailures = [])
    (found : tally.cycle = some cycle) : tally.deadlockCause = cycleCause cycle := by
  have noFailures : ¬tally.hasBlockingFailures = true := by simp [hasBlockingFailures, unfailed]
  rw [deadlockCause, if_neg noFailures, found]
  rfl

/-- A deadlock without a failure that counts is put down to a cycle that was skipped. -/
theorem Plan.Concludes.cycle_of_deadlock
    (concludes : plan.Concludes settings environment report last) (fresh : plan.Fresh)
    (outcome : (plan.run settings environment).outcome = .ok report)
    (isDeadlock : report.conclusion = .deadlock)
    (unfailed : ∀ step ∈ (plan.run settings environment).plan.steps,
      step.isBlockingFailure = false) :
    ∃ cycle, (plan.tallyAfter settings environment report.cancelled).cycle = some cycle ∧
      plan.graph.ClosedPath cycle ∧
      (∀ id ∈ cycle, id ∈ (plan.run settings environment).plan.idsWithStatus .skipped) ∧
      report.Blames (Tally.cycleCause cycle) := by
  obtain ⟨⟨someSkipped, -⟩, blames⟩ := Plan.blames_of_deadlock outcome isDeadlock
  obtain ⟨id, skipped⟩ := List.exists_mem_of_ne_nil _ someSkipped
  have behind : plan.graph.BehindCycle id := by
    refine (concludes.origin_of_skipped fresh skipped).resolve_left ?_
    rintro ⟨failed, failedMember, failure, -⟩
    rw [unfailed failed failedMember] at failure
    contradiction
  obtain ⟨cycle, found, closed, allSkipped⟩ := concludes.exists_cycle fresh behind
  have told : (plan.tallyAfter settings environment report.cancelled).cycle = some cycle := by
    rw [Plan.tallyAfter, Plan.cycle_tally unfailed someSkipped,
      Plan.graph_eq_of_design concludes.design, found]
  refine ⟨cycle, told, closed, allSkipped, ?_⟩
  rwa [Tally.deadlockCause_of_cycle (Plan.idsWhere_eq_nil_iff.2 unfailed) told] at blames

/--
A run that asks for a new plan explains it, and never by an unknown cause. A run that comes to a
deadlock without a failure that counts, and that found no step over at its start, has skipped all
steps of a cycle, which it names.
-/
theorem causes_are_known (outcome : (plan.run settings environment).outcome = .ok report) :
    (report.conclusion = .needsReplan → ∃ brief, report.brief = some brief ∧
      Replan.Explains (plan.run settings environment).plan report.cancelled brief.primaryCause ∧
      brief.primaryCause ≠ "unknown") ∧
    (plan.Fresh → report.conclusion = .deadlock →
      (∀ step ∈ (plan.run settings environment).plan.steps, step.isBlockingFailure = false) →
      ∃ cycle, (plan.tallyAfter settings environment report.cancelled).cycle = some cycle ∧
        plan.graph.ClosedPath cycle ∧
        (∀ id ∈ cycle, id ∈ (plan.run settings environment).plan.idsWithStatus .skipped) ∧
        report.Blames (Tally.cycleCause cycle)) := by
  obtain ⟨last, concludes⟩ := Plan.concludes_of_run_ok outcome
  constructor
  · intro isReplan
    have explains := concludes.explains (Plan.ruled_of_run_ok outcome) isReplan
    refine ⟨_, ?_, explains, explains.ne_unknown⟩
    rw [(Plan.reported_of_run_ok outcome).brief, if_pos isReplan]
  · exact fun fresh isDeadlock unfailed =>
      concludes.cycle_of_deadlock fresh outcome isDeadlock unfailed

/-- Runners who wait for each other, behind a warm-up that may fail, and those who cheer. -/
def relayPlan : Plan :=
  { Plan.blank with
    id := "relay"
    steps :=
      [{ Step.new "warmup" "stretch" .null with optional := true },
        (Step.new "left" "run" .null).dependingOn ["right", "warmup"],
        (Step.new "right" "run" .null).dependingOn ["left"],
        (Step.new "cheer" "shout" .null).dependingOn ["right"]] }

/-- A world in which the warm-up fails. -/
def relayWorld : Environment :=
  Rehearsal.environment
    { context := {}
      scripts := [("warmup", [⟨5, .failure "cramp"⟩])]
      cancelAt := none
      cuesResolver := false } "run" default

/-- One run says that it was cancelled, and another one names the cycle that it skipped. -/
theorem causes_are_known_relay :
    (∃ report brief, (pressPlan.run pressSettings (pressWorld (some .beforeStart))).outcome =
        .ok report ∧ report.conclusion = .needsReplan ∧ report.brief = some brief ∧
      Replan.Explains (pressPlan.run pressSettings (pressWorld (some .beforeStart))).plan
        report.cancelled brief.primaryCause ∧ brief.primaryCause ≠ "unknown") ∧
    ∃ report cycle, (relayPlan.run {} relayWorld).outcome = .ok report ∧ relayPlan.Fresh ∧
      report.conclusion = .deadlock ∧
      (∀ step ∈ (relayPlan.run {} relayWorld).plan.steps, step.isBlockingFailure = false) ∧
      relayPlan.graph.ClosedPath cycle ∧ report.Blames (Tally.cycleCause cycle) ∧
      ∀ id ∈ cycle, id ∈ (relayPlan.run {} relayWorld).plan.idsWithStatus .skipped := by
  constructor
  · have seen : (pressPlan.run pressSettings
        (pressWorld (some .beforeStart))).outcome.toOption.map (·.conclusion) =
          some .needsReplan := by decide +kernel
    obtain ⟨report, outcome, isReplan⟩ := Run.exists_of_seen seen
    obtain ⟨brief, isBrief, explains, known⟩ := (causes_are_known outcome).1 isReplan
    exact ⟨report, brief, outcome, isReplan, isBrief, explains, known⟩
  · have seen : (relayPlan.run {} relayWorld).outcome.toOption.map (·.conclusion) =
        some .deadlock := by decide +kernel
    obtain ⟨report, outcome, isDeadlock⟩ := Run.exists_of_seen seen
    have fresh : relayPlan.Fresh := by
      unfold Plan.Fresh
      decide
    have unfailed : ∀ step ∈ (relayPlan.run {} relayWorld).plan.steps,
        step.isBlockingFailure = false := by decide +kernel
    obtain ⟨cycle, -, closed, allSkipped, blames⟩ :=
      (causes_are_known outcome).2 fresh isDeadlock unfailed
    exact ⟨report, cycle, outcome, fresh, isDeadlock, unfailed, closed, blames, allSkipped⟩

end PlanRunner
