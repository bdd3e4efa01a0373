import PlanRunner.Proofs.Plan.Bare
import PlanRunner.Proofs.Run.Precedence
import PlanRunner.Proofs.Run.Reordering

/-!
# Hints and descriptions never matter

Plans that differ only in what is there for readers go through their runs side by side. Before each
batch their plans differ in nothing else, so that the same steps are ready, the same turns are taken
and the same is written back. Hence the runs stop for the same reason, come to the same ruling, and
leave plans that again differ only in what is there for readers.
-/

namespace PlanRunner

open Progress

variable {settings : Settings} {environment other : Environment} {plan second : Plan}
  {report : Report} {first last : Progress} {input : String} {batch twin : Batch}

/-- Two functions that agree wherever two keys do agree on two lists with the same keys. -/
theorem map_eq_map_of_keys {α β γ : Type} {key : α → β} {change other : α → γ}
    (agree : ∀ first last, key first = key last → change first = other last) :
    ∀ {entries more : List α}, entries.map key = more.map key →
      entries.map change = more.map other
  | [], [], _ => rfl
  | first :: rest, last :: others, same => by
      obtain ⟨head, tail⟩ := List.cons.inj same
      rw [List.map_cons, List.map_cons, agree first last head, map_eq_map_of_keys agree tail]

/-! ## Turns -/

/-- A turn without its times, of the step without what is there for readers. -/
def Turn.bare (turn : Turn) : Turn :=
  { turn.untimed with step := turn.step.bare }

namespace Turn

theorem outcome?_bare (turn : Turn) : turn.bare.outcome? = turn.outcome? :=
  turn.outcome?_untimed

theorem mark_bare (ending : Ending) (step : Step) :
    mark ending step.bare = (mark ending step).bare := by
  unfold mark
  split <;> rfl

theorem marked_bare (turn : Turn) : turn.bare.marked = turn.marked.bare :=
  mark_bare turn.ending turn.step

/-- What is there for readers has no part in a turn. -/
theorem take_bare
    (answers : SameAnswers settings settings environment.toGateways other.toGateways)
    (templates : environment.UsesTemplates input) (otherTemplates : other.UsesTemplates input)
    {steps seen : List Step} (sameSteps : steps.map Step.bare = seen.map Step.bare)
    {before after : Step} (same : before.bare = after.bare) :
    (take settings environment.toGateways steps before).bare =
      (take settings other.toGateways seen after).bare := by
  have parts := same
  injection parts with id _ actionType tool arguments _ _ _ _ retryCount maxRetries
  have resolved : (environment.resolve before steps).value = (other.resolve after seen).value := by
    rw [templates, otherTemplates, ← Template.resolve_bare steps, sameSteps,
      Template.resolve_bare, arguments]
  have actions : Action.ofStep before = Action.ofStep after := by
    funext filled
    simp only [Action.ofStep, id, actionType, tool]
  rw [bare, take_of_like answers resolved actions retryCount maxRetries, bare, step_take,
    step_take, ← same]

end Turn

/-! ## Batches -/

/-- Two batches whose turns differ only in times and in what is there for readers. -/
def Batch.Resembles (batch second : Batch) : Prop :=
  batch.turns.map Turn.bare = second.turns.map Turn.bare

/-- Two batches that take the same steps, make the same calls and have the same outcomes. -/
structure Batch.Echoes (environment other : Environment) (batch second : Batch) : Prop where
  ids : batch.turns.map (·.step.id) = second.turns.map (·.step.id)
  actions : batch.actions = second.actions
  /-- The outcomes are the same in another order if the turns end in another order. -/
  outcomes : (batch.outcomes environment).Perm (second.outcomes other)

namespace Batch.Resembles

variable (resembles : batch.Resembles twin)

include resembles

theorem sameOutcomes : batch.SameOutcomes twin := by
  refine map_eq_map_of_keys (fun first last same => ?_) resembles
  have outcomes : first.bare.outcome? = last.bare.outcome? := congrArg Turn.outcome? same
  have steps : first.step.bare = last.step.bare := congrArg Turn.step same
  rw [Turn.outcome?_bare, Turn.outcome?_bare] at outcomes
  exact Prod.ext (Step.id_eq_of_bare steps) outcomes

theorem actions_eq : batch.actions = twin.actions := by
  have calls : batch.turns.map (fun turn => turn.calls.map (·.action)) =
      twin.turns.map fun turn => turn.calls.map (·.action) := by
    refine map_eq_map_of_keys (fun first last same => ?_) resembles
    have calls : first.calls.map Call.untimed = last.calls.map Call.untimed :=
      congrArg Turn.calls same
    have mapped := congrArg (List.map (·.action)) calls
    rw [List.map_map, List.map_map] at mapped
    exact mapped
  rw [actions, actions, List.flatMap_def, calls, List.flatMap_def]

theorem echoes : batch.Echoes environment other twin := by
  constructor
  · exact resembles.sameOutcomes.ids_eq
  · exact resembles.actions_eq
  · exact resembles.sameOutcomes.outcomes_perm

end Batch.Resembles

/-! ## Runs side by side -/

/-- Two runs that have come equally far, with plans that differ in what is there for readers. -/
structure Progress.Resembles (first last : Progress) : Prop where
  plan : first.plan.bare = last.plan.bare
  batches : List.Forall₂ Batch.Resembles first.batches last.batches

/-- Two worlds that cancel runs after batches that differ in nothing that matters. -/
def Environment.CancelsLike (environment other : Environment) : Prop :=
  ∀ batches others, List.Forall₂ Batch.Resembles batches others →
    environment.cancelled batches = other.cancelled others

namespace Progress.Resembles

variable (resembles : first.Resembles last)

include resembles

theorem steps : first.plan.steps.map Step.bare = last.plan.steps.map Step.bare :=
  congrArg Plan.steps resembles.plan

theorem ready_eq : Step.ready first.plan.steps = Step.ready last.plan.steps := by
  rw [← Step.ready_bare, resembles.steps, Step.ready_bare]

theorem chosen_eq : first.chosen settings = last.chosen settings := by
  rw [chosen, resembles.ready_eq, chosen]

theorem launched_bare : (first.launched settings).bare = (last.launched settings).bare := by
  rw [launched, ← Plan.withStatus_bare, resembles.plan, resembles.chosen_eq,
    Plan.withStatus_bare, launched]

theorem distinct (distinct : Step.Distinct first.plan.steps) : Step.Distinct last.plan.steps := by
  rw [← Step.distinct_bare, ← resembles.steps]
  exact Step.distinct_bare.2 distinct

variable (answers : SameAnswers settings settings environment.toGateways other.toGateways)
  (templates : environment.UsesTemplates input) (otherTemplates : other.UsesTemplates input)

include answers templates otherTemplates

/-- The next batches differ only in what is there for readers, and in times. -/
theorem nextBatch :
    (first.nextBatch settings environment).Resembles (last.nextBatch settings other) := by
  have steps : (first.launched settings).steps.map Step.bare =
      (last.launched settings).steps.map Step.bare :=
    congrArg Plan.steps resembles.launched_bare
  have found : ((first.chosen settings).filterMap
        (Step.find? (first.launched settings).steps)).map Step.bare =
      ((last.chosen settings).filterMap (Step.find? (last.launched settings).steps)).map
        Step.bare := by
    rw [List.map_filterMap, List.map_filterMap, resembles.chosen_eq]
    refine List.filterMap_congr fun id _ => ?_
    rw [← Step.find?_bare, steps, Step.find?_bare]
  refine (List.map_map ..).trans (Eq.trans ?_ (List.map_map ..).symm)
  refine map_eq_map_of_keys (fun before after same => ?_) found
  exact Turn.take_bare answers templates otherTemplates steps same

/-- A step that took part in the next batch is as its turn has left it, in both runs. -/
theorem stepAfter_bare {before after : Step} (same : before.bare = after.bare) :
    (stepAfter settings environment first before).bare =
      (stepAfter settings other last after).bare := by
  have steps : (first.launched settings).steps.map Step.bare =
      (last.launched settings).steps.map Step.bare :=
    congrArg Plan.steps resembles.launched_bare
  have taken : before.id ∈ first.chosen settings ↔ after.id ∈ last.chosen settings := by
    rw [Step.id_eq_of_bare same, resembles.chosen_eq]
  have running : Step.bare { before with status := .running } =
      Step.bare { after with status := .running } :=
    congrArg (fun step : Step => { step with status := .running }) same
  have turns := Turn.take_bare answers templates otherTemplates steps running
  by_cases isTaken : before.id ∈ first.chosen settings
  · rw [stepAfter, if_pos isTaken, stepAfter, if_pos (taken.1 isTaken), ← Turn.marked_bare, turns,
      Turn.marked_bare]
  · rw [stepAfter, if_neg isTaken, stepAfter, if_neg (taken.not.1 isTaken), same]

/-- After the next batch the two runs have again come equally far. -/
theorem next (distinct : Step.Distinct first.plan.steps) :
    (first.next settings environment).Resembles (last.next settings other) := by
  constructor
  case plan =>
    rw [plan_next distinct, plan_next (resembles.distinct distinct)]
    have steps : (first.plan.steps.map (stepAfter settings environment first)).map Step.bare =
        (last.plan.steps.map (stepAfter settings other last)).map Step.bare := by
      rw [List.map_map, List.map_map]
      refine map_eq_map_of_keys (fun before after same => ?_) resembles.steps
      exact resembles.stepAfter_bare answers templates otherTemplates same
    have frame := congrArg (fun plan : Plan => { plan with steps := [] }) resembles.plan
    exact congrArg₂ (fun (plan : Plan) steps => { plan with steps }) frame steps
  case batches =>
    rw [batches_next, batches_next]
    exact List.rel_append resembles.batches
      (.cons (resembles.nextBatch answers templates otherTemplates) .nil)

end Progress.Resembles

/-- A run whose arguments are resolved by templates goes on while it is free to. -/
theorem Progress.advances_next (templates : environment.UsesTemplates input)
    (distinct : Step.Distinct first.plan.steps) (ready : Step.ready first.plan.steps ≠ [])
    (free : environment.cancelled first.batches = false) :
    Advances settings environment first (first.next settings environment) := by
  refine ⟨ready, free, fun turn member => ?_, rfl⟩
  obtain ⟨step, -, -, rfl⟩ := (mem_nextBatch_iff distinct).1 member
  exact Turn.settled_take (templates _ _)

/-- Two runs that have come equally far take the same batches, and stop for the same reason. -/
theorem Progress.Resembles.runBatches
    (answers : SameAnswers settings settings environment.toGateways other.toGateways)
    (templates : environment.UsesTemplates input) (otherTemplates : other.UsesTemplates input)
    (cancels : environment.CancelsLike other) (bound : Nat) :
    ∀ {first last : Progress}, first.Resembles last → Step.Distinct first.plan.steps →
      (runBatches settings environment bound first).1.Resembles
          (runBatches settings other bound last).1 ∧
        (runBatches settings environment bound first).2 =
          (runBatches settings other bound last).2 := by
  -- The induction follows the bound; neither run stops before the other one does.
  induction bound with
  | zero => exact fun resembles _ => ⟨resembles, rfl⟩
  | succ bound ih =>
      intro first last resembles distinct
      have ready := resembles.ready_eq
      have cancelled := cancels _ _ resembles.batches
      by_cases drained : Step.ready first.plan.steps = []
      · rw [runBatches_of_drained drained, runBatches_of_drained (ready ▸ drained)]
        exact ⟨resembles, rfl⟩
      · have lastReady : Step.ready last.plan.steps ≠ [] := ready ▸ drained
        cases isCancelled : environment.cancelled first.batches with
        | true =>
            rw [runBatches_of_cancelled drained isCancelled,
              runBatches_of_cancelled lastReady (cancelled ▸ isCancelled), ready]
            exact ⟨resembles, rfl⟩
        | false =>
            rw [runBatches_of_advances (advances_next templates distinct drained isCancelled),
              runBatches_of_advances (advances_next otherTemplates (resembles.distinct distinct)
                lastReady (cancelled ▸ isCancelled))]
            exact ih (resembles.next answers templates otherTemplates distinct)
              (distinct_next distinct)

/-! ## Whole runs -/

theorem Progress.Resembles.start (same : plan.bare = second.bare) :
    (start plan).Resembles (start second) := by
  have started : plan.started.bare = second.started.bare := by
    have reset := congrArg Plan.reset same
    rw [Plan.reset_bare, Plan.reset_bare] at reset
    exact congrArg (fun plan : Plan => { plan with status := .running }) reset
  exact ⟨started, .nil⟩

/-- A report tells nothing of what is there for readers. -/
theorem Run.verdict_report_bare (environment : Environment) (progress : Progress) (plan : Plan)
    (ruling : Ruling) (cancelled : Bool) :
    (Run.report environment progress plan.bare ruling cancelled).verdict =
      (Run.report environment progress plan ruling cancelled).verdict := by
  have length : plan.bare.steps.length = plan.steps.length := List.length_map _
  simp only [Run.report, Report.verdict, length, Plan.idsWithStatus_bare, Plan.brief_bare]
  rfl

/-- Plans that differ in what is there for readers get the same ruling, and differ in no more. -/
theorem Plan.rule_bare (same : plan.bare = second.bare) (settings : Settings) (cancelled : Bool) :
    plan.ruling settings cancelled = second.ruling settings cancelled ∧
      (plan.rule (plan.ruling settings cancelled)).bare =
        (second.rule (second.ruling settings cancelled)).bare := by
  have ruling : plan.ruling settings cancelled = second.ruling settings cancelled := by
    rw [← Plan.ruling_bare, same, Plan.ruling_bare]
  refine ⟨ruling, ?_⟩
  rw [ruling]
  exact congrArg (Plan.rule · (second.ruling settings cancelled)) same

/-- Runs that have come equally far leave such plans, and report the same of them. -/
theorem Run.finish_resembles (resembles : first.Resembles last) (start otherStart : Plan)
    (stop : Stop) :
    (finish settings environment start first stop).plan.bare =
        (finish settings other otherStart last stop).plan.bare ∧
      (finish settings environment start first stop).outcome.map Report.verdict =
        (finish settings other otherStart last stop).outcome.map Report.verdict := by
  have skipped : first.plan.skipUnreachable.bare = last.plan.skipUnreachable.bare := by
    rw [← Plan.skipUnreachable_bare, resembles.plan, Plan.skipUnreachable_bare]
  have ends : ∀ cancelled,
      (first.plan.skipUnreachable.rule
          (first.plan.skipUnreachable.ruling settings cancelled)).bare =
        (last.plan.skipUnreachable.rule
          (last.plan.skipUnreachable.ruling settings cancelled)).bare ∧
      (Run.report environment first (first.plan.skipUnreachable.rule
          (first.plan.skipUnreachable.ruling settings cancelled))
          (first.plan.skipUnreachable.ruling settings cancelled) cancelled).verdict =
        (Run.report other last (last.plan.skipUnreachable.rule
          (last.plan.skipUnreachable.ruling settings cancelled))
          (last.plan.skipUnreachable.ruling settings cancelled) cancelled).verdict := by
    intro cancelled
    obtain ⟨ruling, ruled⟩ := Plan.rule_bare skipped settings cancelled
    refine ⟨ruled, ?_⟩
    rw [← Run.verdict_report_bare, ruled, Run.verdict_report_bare, ruling]
    rfl
  cases stop with
  | broken error => exact ⟨resembles.plan, rfl⟩
  | drained | cancelled ready =>
      obtain ⟨plans, verdicts⟩ := ends _
      exact ⟨plans, congrArg Except.ok verdicts⟩

/--
What is there for readers never matters. Runs of plans that differ only in the descriptions and the
hints of their steps, in goal and in reasoning, under the same settings, with the same input, the
same answers and the same cancellations, take the same batches and make the same calls. They report
the same, but for the runs themselves, the times, and the order of the records of a batch where its
turns end in another order. The plans that they leave again differ in nothing else.
-/
theorem hints_immaterial (valid : plan.validate = .ok ()) (same : plan.bare = second.bare)
    (templates : environment.UsesTemplates input) (otherTemplates : other.UsesTemplates input)
    (answers : SameAnswers settings settings environment.toGateways other.toGateways)
    (cancels : environment.CancelsLike other) :
    ∃ report otherReport,
      (plan.run settings environment).outcome = .ok report ∧
      (second.run settings other).outcome = .ok otherReport ∧
      report.verdict = otherReport.verdict ∧
      List.Forall₂ (Batch.Echoes environment other) (plan.run settings environment).batches
        (second.run settings other).batches ∧
      (report.executedSteps.map StepRecord.untimed).Perm
        (otherReport.executedSteps.map StepRecord.untimed) ∧
      (SameOrder environment other (plan.run settings environment).batches
          (second.run settings other).batches →
        report.executedSteps.map StepRecord.untimed =
          otherReport.executedSteps.map StepRecord.untimed) ∧
      (plan.run settings environment).plan.bare = (second.run settings other).plan.bare := by
  have otherValid : second.validate = .ok () := by
    rw [← Plan.validate_bare, ← same, Plan.validate_bare, valid]
  rw [Plan.validate_eq_ok] at valid otherValid
  obtain ⟨report, last, outcome, concludes⟩ := valid.concludes settings templates
  obtain ⟨otherReport, otherLast, otherOutcome, -⟩ := otherValid.concludes settings otherTemplates
  have length : plan.started.steps.length = second.started.steps.length := by
    have steps := congrArg (fun plan : Plan => plan.steps.length) same
    simpa [Plan.bare, Plan.started, Plan.reset] using steps
  obtain ⟨resembles, stops⟩ := (Resembles.start same).runBatches answers templates otherTemplates
    cancels plan.started.steps.length valid.coherent_start.distinct
  obtain ⟨plans, verdicts⟩ := Run.finish_resembles resembles plan second
    (runBatches settings environment plan.started.steps.length (start plan)).2
  have ran := valid.run_eq settings environment
  have otherRan := otherValid.run_eq settings other
  rw [← length, ← stops] at otherRan
  rw [← ran, ← otherRan] at plans verdicts
  have batches : List.Forall₂ Batch.Resembles (plan.run settings environment).batches
      (second.run settings other).batches := by
    rw [ran, otherRan, Run.batches_finish, Run.batches_finish]
    exact resembles.batches
  have outcomes := batches.imp fun _ _ => Batch.Resembles.sameOutcomes
  rw [outcome, otherOutcome] at verdicts
  refine ⟨report, otherReport, outcome, otherOutcome, Except.ok.inj verdicts,
    batches.imp fun _ _ => Batch.Resembles.echoes, ?records, fun order => ?ordered, plans⟩
  case records =>
    rw [Plan.records_untimed_of_run_ok outcome, Plan.records_untimed_of_run_ok otherOutcome]
    exact flatMap_perm_of_sameOutcomes outcomes
  case ordered =>
    rw [Plan.records_untimed_of_run_ok outcome, Plan.records_untimed_of_run_ok otherOutcome]
    refine flatMap_eq_of_sameOutcomes outcomes (fun batch member => ?_) order
    rw [concludes.batches] at member
    exact concludes.coherent.nodup_batch member

/-! ## Rehearsals -/

theorem Rehearsal.reaches_bare (turn : Turn) (point : CancelPoint) :
    reaches turn.bare point = reaches turn point := by
  cases point with
  | beforeStart | afterStep id => rfl
  | onCall id =>
      have silent : turn.bare.calls.isEmpty = turn.calls.isEmpty := List.isEmpty_map
      rw [reaches, silent]
      rfl

/-- Rehearsals that are cancelled at the same point are cancelled alike. -/
theorem Rehearsal.cancelsLike (rehearsal : Rehearsal) (runId otherId : String)
    (startedAt later : Timestamp) :
    (rehearsal.environment runId startedAt).CancelsLike (rehearsal.environment otherId later) := by
  intro batches others resembles
  have reached : ∀ point,
      (batches.any fun batch => batch.turns.any fun turn => reaches turn point) =
        others.any fun batch => batch.turns.any fun turn => reaches turn point := by
    intro point
    induction resembles with
    | nil => rfl
    | cons first _ ih =>
        have turns := congrArg (List.any · (reaches · point)) first
        simp only [List.any_map, Function.comp_def, reaches_bare] at turns
        rw [List.any_cons, List.any_cons, turns, ih]
  change rehearsal.cancelled batches = rehearsal.cancelled others
  unfold cancelled
  cases rehearsal.cancelAt with
  | none => rfl
  | some point => cases point <;> simp only [reached]

/-- A garden with a goal, and with descriptions and hints for its steps. -/
def gardenPlan (goal : String) (describe : String → String) (parallel : Bool) : Plan :=
  { Plan.blank with
    id := "garden"
    goal
    steps :=
      [Step.new "dig" "spade" (.string "bed"),
        Step.new "water" "hose" .null,
        (Step.new "plant" "hand" (.string "\x7b\x7bdig\x7d\x7d of tulips")).dependingOn ["dig"],
        (Step.new "pick" "hand" .null).dependingOn ["plant"]].map fun step =>
          { step with description := describe step.id, parallel } }

/-- A rehearsal without water, which is cancelled once the tulips are planted. -/
def gardenRehearsal : Rehearsal :=
  { context := {}
    scripts := [("water", [⟨20, .failure "dry"⟩]), ("dig", [⟨30, .success (.string "a bed")⟩])]
    cancelAt := some (.afterStep "plant")
    cuesResolver := false }

/-- Whatever is said of the garden, the tulips are planted and not picked. -/
theorem hints_immaterial_garden :
    ∃ report otherReport,
      ((gardenPlan "" (fun _ => "") false).run {}
        (gardenRehearsal.environment "first" default)).outcome = .ok report ∧
      ((gardenPlan "tulips" ("to " ++ ·) true).run {}
        (gardenRehearsal.environment "second" default)).outcome = .ok otherReport ∧
      report.cancelled = true ∧
      report.executedSteps.map (·.stepId) = ["water", "dig", "plant"] ∧
      report.verdict = otherReport.verdict ∧
      (report.executedSteps.map StepRecord.untimed).Perm
        (otherReport.executedSteps.map StepRecord.untimed) ∧
      ((gardenPlan "" (fun _ => "") false).run {}
          (gardenRehearsal.environment "first" default)).plan.bare =
        ((gardenPlan "tulips" ("to " ++ ·) true).run {}
          (gardenRehearsal.environment "second" default)).plan.bare := by
  have seen : ((gardenPlan "" (fun _ => "") false).run {}
      (gardenRehearsal.environment "first" default)).outcome.toOption.map (fun report =>
        (report.cancelled, report.executedSteps.map (·.stepId))) =
          some (true, ["water", "dig", "plant"]) := by
    decide +kernel
  have templates : ∀ runId, (gardenRehearsal.environment runId default).UsesTemplates "" :=
    fun _ _ _ => rfl
  have answers : SameAnswers {} {} (gardenRehearsal.environment "first" default).toGateways
      (gardenRehearsal.environment "second" default).toGateways :=
    ⟨rfl, fun _ _ => rfl⟩
  obtain ⟨report, otherReport, outcome, otherOutcome, verdicts, -, records, -, plans⟩ :=
    hints_immaterial (show (gardenPlan "" (fun _ => "") false).validate = .ok () from rfl)
      (show _ = (gardenPlan "tulips" ("to " ++ ·) true).bare from rfl) (templates "first")
      (templates "second") answers (gardenRehearsal.cancelsLike "first" "second" default default)
  rw [outcome] at seen
  obtain ⟨cancelled, ids⟩ := Prod.mk.inj (Option.some.inj seen)
  exact ⟨report, otherReport, outcome, otherOutcome, cancelled, ids, verdicts, records, plans⟩

end PlanRunner
