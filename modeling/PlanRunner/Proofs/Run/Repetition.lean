import PlanRunner.Proofs.Run.Statuses

/-!
# Runs of a plan that is over

A run that was not cancelled leaves every step over, so that a further run has nothing to do. It
resolves nothing, calls nothing and changes no step, whatever world it meets, and the steps suggest
the same conclusion again. Only the ruling may differ: if the plan asks for a new one then every run
uses up a replan, until none is left and the request is refused.
-/

namespace PlanRunner

open Progress

variable {settings : Settings} {environment : Environment} {plan other : Plan} {report : Report}
  {worlds : List Environment} {stage : Stage} {runs : Nat}

/-! ## One more run -/

/-- A valid plan all of whose steps have succeeded, failed or been skipped. -/
structure Plan.Over (plan : Plan) : Prop where
  valid : plan.Valid
  ended : ∀ step ∈ plan.steps, step.status ≠ .pending ∧ step.status ≠ .running

/-- Whether a plan that is over asks for a new one, by its steps or by its signals. -/
def Plan.Asks (settings : Settings) (plan : Plan) : Prop :=
  Ruling.Asks (plan.tally settings.maxRetries false).conclusion plan.metadata.signals

theorem Plan.asks_congr (steps : plan.steps = other.steps)
    (signals : plan.metadata.signals = other.metadata.signals) :
    plan.Asks settings ↔ other.Asks settings := by
  rw [Asks, Asks, Plan.tally_congr steps, signals]

/-- A run that was not cancelled leaves a plan that is over. -/
theorem Plan.over_of_run_ok (outcome : (plan.run settings environment).outcome = .ok report)
    (uncancelled : report.cancelled = false) : (plan.run settings environment).plan.Over := by
  obtain ⟨last, concludes⟩ := Plan.concludes_of_run_ok outcome
  exact ⟨concludes.valid.of_design concludes.design.symm,
    fun step member => concludes.isOver uncancelled member⟩

namespace Plan.Over

theorem steps_start (isOver : plan.Over) : (start plan).plan.steps = plan.steps :=
  Step.map_rested_of_idle fun step member => (isOver.ended step member).2

/-- None of its steps is skipped. -/
theorem steps_skipUnreachable (isOver : plan.Over) :
    (start plan).plan.skipUnreachable.steps = plan.steps := by
  have distinct := isOver.valid.coherent_start.distinct
  rw [Plan.steps_skipUnreachable, isOver.steps_start]
  rw [isOver.steps_start] at distinct
  refine (List.map_congr_left fun step member => Step.shelve_of_not_mem ?_).trans (List.map_id _)
  intro unreachable
  have pending := ((Step.id_mem_unreachable_iff distinct member).1 unreachable).1
  exact (isOver.ended step member).1 pending

/-- A run has nothing to do, whatever world it meets, and says so. -/
theorem run_idle (isOver : plan.Over) (settings : Settings) (environment : Environment) :
    (plan.run settings environment).batches = [] ∧
    (plan.run settings environment).plan.steps = plan.steps ∧
    ∃ report, (plan.run settings environment).outcome = .ok report ∧
      report.executedSteps = [] ∧ report.cancelled = false := by
  rw [isOver.valid.run_of_drained (Plan.ready_start_of_isOver isOver.ended)]
  exact ⟨rfl, isOver.steps_skipUnreachable, _, rfl, rfl, rfl⟩

/-- The run leaves the plan over. -/
theorem run (isOver : plan.Over) (settings : Settings) (environment : Environment) :
    (plan.run settings environment).plan.Over := by
  obtain ⟨-, -, report, outcome, -, uncancelled⟩ := isOver.run_idle settings environment
  exact Plan.over_of_run_ok outcome uncancelled

/-- What is known about the steps after the run is what was known before. -/
theorem tallyAfter_eq (isOver : plan.Over) (settings : Settings) (environment : Environment)
    (cancelled : Bool) :
    plan.tallyAfter settings environment cancelled =
      plan.tally settings.maxRetries cancelled :=
  Plan.tally_congr (isOver.run_idle settings environment).2.1 _ _

end Plan.Over

theorem Plan.signals_run (plan : Plan) (settings : Settings) (environment : Environment) :
    (plan.run settings environment).plan.metadata.signals = plan.metadata.signals := by
  rw [(plan.persists_run settings environment).frame]

/-- A run of a plan that is over sends the plan back if it asks for that and the budget lasts. -/
theorem Stage.replans_iff_of_over (isOver : stage.plan.Over) :
    stage.replans = true ↔ stage.plan.Asks stage.settings ∧ stage.before < stage.limit := by
  obtain ⟨-, -, report, outcome, -, uncancelled⟩ :=
    isOver.run_idle stage.settings stage.environment
  have ruled := stage.ruled outcome
  rw [stage.replans_of_ok outcome, Report.needsReplan, decide_eq_true_iff, ruled.conclusion,
    Plan.rulingAfter, Ruling.conclusion_eq_needsReplan_iff, isOver.tallyAfter_eq, uncancelled]
  rfl

namespace Stage

/-- A plan that asks for a new one uses up a replan, if there is one left. -/
theorem toNat_after_of_asks (isOver : stage.plan.Over) (asks : stage.plan.Asks stage.settings) :
    stage.after.toNat = stage.before.toNat + min 1 (stage.limit.toNat - stage.before.toNat) := by
  have replans := replans_iff_of_over isOver
  rw [stage.toNat_after]
  cases isReplan : stage.replans with
  | true =>
      have left := UInt32.lt_iff_toNat_lt.1 (replans.1 isReplan).2
      rw [if_pos rfl]
      omega
  | false =>
      have spent : ¬stage.before < stage.limit := fun left => by
        rw [replans.2 ⟨asks, left⟩] at isReplan
        contradiction
      rw [UInt32.lt_iff_toNat_lt] at spent
      rw [if_neg Bool.false_ne_true]
      omega

/-- A plan that asks for nothing uses up nothing. -/
theorem after_eq_of_not_asks (isOver : stage.plan.Over)
    (content : ¬stage.plan.Asks stage.settings) :
    stage.after = stage.before := by
  have counted := stage.toNat_after
  rw [if_neg fun replans => content ((replans_iff_of_over isOver).1 replans).1] at counted
  exact UInt32.toNat_inj.1 counted

end Stage

/-! ## All further runs -/

/-- A run finds a plan as it was so many runs before under the same settings, but for the count. -/
structure Plan.Rests (settings : Settings) (plan : Plan) (runs : Nat) (stage : Stage) : Prop where
  sameSettings : stage.settings = settings
  isOver : stage.plan.Over
  steps : stage.plan.steps = plan.steps
  signals : stage.plan.metadata.signals = plan.metadata.signals
  /-- If the plan asks for a new one, every run has used up a replan, as long as there was one. -/
  spent : plan.Asks settings → stage.before.toNat = plan.metadata.replansCount.toNat +
    min runs (settings.maxReplansPerPlan.toNat - plan.metadata.replansCount.toNat)
  saved : ¬plan.Asks settings → stage.before = plan.metadata.replansCount

/-- A plan that is over rests through all further runs. -/
theorem Plan.Over.rests (isOver : plan.Over)
    (found : (plan.stages (worlds.map (settings, ·)))[runs]? = some stage) :
    plan.Rests settings runs stage := by
  induction worlds generalizing plan runs with
  | nil => contradiction
  | cons world rest ih =>
      cases runs with
      | zero =>
          obtain rfl : ⟨settings, world, plan⟩ = stage := Option.some.inj found
          exact ⟨rfl, isOver, rfl, rfl, fun _ => by simp [Stage.before], fun _ => rfl⟩
      | succ runs =>
          have later := ih (isOver.run settings world) found
          have steps := (isOver.run_idle settings world).2.1
          have signals := plan.signals_run settings world
          have asks : (plan.run settings world).plan.Asks settings ↔ plan.Asks settings :=
            Plan.asks_congr steps signals
          have now : (⟨settings, world, plan⟩ : Stage).plan.Over := isOver
          constructor
          case sameSettings => exact later.sameSettings
          case isOver => exact later.isOver
          case steps => exact later.steps.trans steps
          case signals => exact later.signals.trans signals
          case spent =>
            intro wanted
            have used := Stage.toNat_after_of_asks now wanted
            have onwards := later.spent (asks.2 wanted)
            simp only [Stage.after, Stage.run, Stage.before, Stage.limit] at used onwards ⊢
            omega
          case saved =>
            intro content
            have kept := Stage.after_eq_of_not_asks now content
            exact (later.saved fun wanted => content (asks.1 wanted)).trans kept

/-! ## What the further runs say -/

namespace Stage

variable {first : Stage} {again : Report}

/-- The steps of a run, weighed against the signals, ask for a new plan. -/
def Asks (stage : Stage) (report : Report) : Prop :=
  Ruling.Asks (stage.plan.tallyAfter stage.settings stage.environment report.cancelled).conclusion
    stage.plan.metadata.signals

/-- A further run of a plan that is over does nothing, and is ruled as the budget allows. -/
structure Repeats (first : Stage) (report : Report) (runs : Nat) (stage : Stage)
    (again : Report) : Prop where
  outcome : stage.run.outcome = .ok again
  /-- Nothing is resolved, and no tool is called. -/
  batches : stage.run.batches = []
  executedSteps : again.executedSteps = []
  cancelled : again.cancelled = false
  steps : stage.run.plan.steps = first.run.plan.steps
  /-- The steps suggest the same conclusion. -/
  tally : stage.plan.tallyAfter stage.settings stage.environment again.cancelled =
    first.plan.tallyAfter first.settings first.environment report.cancelled
  /-- If a new plan is asked for, every run uses up a replan, as long as there is one. -/
  spent : first.Asks report → stage.before.toNat = first.after.toNat +
    min runs (first.limit.toNat - first.after.toNat)
  /-- The ruling stays while the budget lasts, and for good if no new plan is asked for. -/
  conclusion : stage.before < first.limit ∨ ¬first.Asks report →
    again.conclusion = report.conclusion
  /-- Once the budget is spent a new plan that is asked for is refused. -/
  refused : first.Asks report → first.limit ≤ stage.before →
    again.conclusion = .complete ∧ ∃ rest, again.feedback = "Replan limit reached" ++ rest

/-- Two runs with the same tally and the same signals have the same conclusion if a budget lasts. -/
theorem conclusion_eq (outcome : first.run.outcome = .ok report)
    (againOutcome : stage.run.outcome = .ok again)
    (tally : stage.plan.tallyAfter stage.settings stage.environment again.cancelled =
      first.plan.tallyAfter first.settings first.environment report.cancelled)
    (signals : stage.plan.metadata.signals = first.plan.metadata.signals)
    (lasts : first.before < first.limit ∧ stage.before < stage.limit ∨ ¬first.Asks report) :
    again.conclusion = report.conclusion := by
  have ruled := first.ruled outcome
  have ruledAgain := stage.ruled againOutcome
  rw [ruledAgain.conclusion, ruled.conclusion, Plan.rulingAfter, Plan.rulingAfter, tally, signals]
  by_cases asks : first.Asks report
  · rcases lasts with ⟨left, leftAgain⟩ | content
    · rw [(Ruling.of_granted _ asks leftAgain).1, (Ruling.of_granted _ asks left).1]
    · contradiction
  · rw [(Ruling.of_not_asks _ _ asks).1, (Ruling.of_not_asks _ _ asks).1]

theorem before_le_after (stage : Stage) : stage.before ≤ stage.after := by
  rw [UInt32.le_iff_toNat_le, stage.toNat_after]
  exact Nat.le_add_right _ _

end Stage

/--
Runs of a plan after one that was not cancelled do nothing, in whatever worlds: they resolve
nothing and call nothing, have no records, change no step and come to the same tentative conclusion.
Each conclusion is the one of the first run, as long as the replan budget lasts or no new plan is
asked for. Once the budget is spent the runs are complete if a new plan is asked for, and say that
the limit is reached.
-/
theorem repeated_runs_do_nothing {first : Stage} (outcome : first.run.outcome = .ok report)
    (uncancelled : report.cancelled = false)
    (found : (first.run.plan.stages (worlds.map (first.settings, ·)))[runs]? = some stage) :
    ∃ again, first.Repeats report runs stage again := by
  have rests := (Plan.over_of_run_ok outcome uncancelled).rests found
  obtain ⟨batches, steps, again, againOutcome, silent, againUncancelled⟩ :=
    rests.isOver.run_idle stage.settings stage.environment
  have tally : stage.plan.tallyAfter stage.settings stage.environment again.cancelled =
      first.plan.tallyAfter first.settings first.environment report.cancelled := by
    rw [rests.isOver.tallyAfter_eq, rests.sameSettings, againUncancelled, uncancelled]
    exact Plan.tally_congr rests.steps _ _
  have signals : stage.plan.metadata.signals = first.plan.metadata.signals :=
    rests.signals.trans (first.plan.signals_run _ _)
  have limit : stage.limit = first.limit := congrArg Settings.maxReplansPerPlan rests.sameSettings
  have asks : first.run.plan.Asks first.settings ↔ first.Asks report := by
    rw [Plan.Asks, Stage.Asks, uncancelled, ← first.plan.signals_run]
    rfl
  have spent : first.Asks report → stage.before.toNat = first.after.toNat +
      min runs (first.limit.toNat - first.after.toNat) :=
    fun wanted => rests.spent (asks.2 wanted)
  refine ⟨again, againOutcome, batches, silent, againUncancelled, steps.trans rests.steps, tally,
    spent, fun lasts => ?_, fun wanted isSpent => ?_⟩
  · refine Stage.conclusion_eq outcome againOutcome tally signals ?_
    rw [limit]
    by_cases wanted : first.Asks report
    · have left := lasts.resolve_right fun content => content wanted
      have grown := UInt32.le_iff_toNat_le.1 first.before_le_after
      refine .inl ⟨?_, left⟩
      rw [UInt32.lt_iff_toNat_lt] at left ⊢
      have counted := spent wanted
      omega
    · exact .inr wanted
  · have ruled := stage.ruled againOutcome
    rw [ruled.conclusion, ruled.feedback, Plan.rulingAfter, tally, signals]
    have isSpentToo : stage.budget.limit ≤ stage.budget.used := limit.trans_le isSpent
    obtain ⟨complete, -, -, said⟩ := Ruling.of_refused _ wanted isSpentToo
    exact ⟨complete, said⟩

/-- A run whose steps are complete while the signals ask for a new plan, with two replans to use. -/
def posterFirst : Stage :=
  ⟨{ maxReplansPerPlan := 2 }, Lineage.posterWorld (.success .null),
    Lineage.posterPlan (some { needs := ["toner"] }) 0 .null⟩

/-- Further runs, in a world in which the step would fail and in one that is cancelled at once. -/
def posterFurther : List Stage :=
  posterFirst.run.plan.stages
    ([Lineage.posterWorld (.failure "jam"), pressWorld (some .beforeStart)].map
      (posterFirst.settings, ·))

/-- The first of the further runs uses up the last replan, so that the next one is refused. -/
theorem repeated_runs_do_nothing_poster :
    ∃ report second third again refused,
      posterFirst.run.outcome = .ok report ∧ report.conclusion = .needsReplan ∧
      posterFurther = [second, third] ∧
      posterFirst.Repeats report 0 second again ∧ again.conclusion = .needsReplan ∧
      posterFirst.Repeats report 1 third refused ∧ refused.conclusion = .complete ∧
      ∃ rest, refused.feedback = "Replan limit reached" ++ rest := by
  have seen : posterFirst.run.outcome.toOption.map (fun report =>
      (report.cancelled, report.conclusion)) = some (false, .needsReplan) := by
    decide +kernel
  obtain ⟨report, outcome, view⟩ := Run.exists_of_seen seen
  obtain ⟨uncancelled, conclusion⟩ := Prod.mk.inj view
  have counts : posterFurther.map Stage.before = [1, 2] := by decide +kernel
  obtain ⟨second, rest, further, used, seenRest⟩ := List.map_eq_cons_iff.1 counts
  obtain ⟨third, rfl, usedUp⟩ := List.map_eq_singleton_iff.1 seenRest
  have foundSecond : posterFurther[0]? = some second := by
    rw [further]
    rfl
  have foundThird : posterFurther[1]? = some third := by
    rw [further]
    rfl
  obtain ⟨again, repeats⟩ := repeated_runs_do_nothing outcome uncancelled foundSecond
  obtain ⟨refused, repeatsLater⟩ := repeated_runs_do_nothing outcome uncancelled foundThird
  have asks : posterFirst.Asks report := by
    rw [Stage.Asks, uncancelled]
    exact .inr ⟨by decide +kernel, rfl⟩
  have left : second.before < posterFirst.limit := used ▸ by decide
  have isSpent : posterFirst.limit ≤ third.before := usedUp ▸ by decide
  obtain ⟨complete, said⟩ := repeatsLater.refused asks isSpent
  exact ⟨report, second, third, again, refused, outcome, conclusion, further, repeats,
    (repeats.conclusion (.inl left)).trans conclusion, repeatsLater, complete, said⟩

end PlanRunner
