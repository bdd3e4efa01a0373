import PlanRunner.Proofs.Run.Lineage
import PlanRunner.Proofs.Run.Precedence

/-!
# What runs leave alone

A run writes nothing but the status, the result, the error and the retry count of steps that were
not over, the status of the plan and its replan count. It attempts a step once at most, has no more
steps in flight at a time than its settings allow, and takes no more batches than there are steps to
attempt. However often a plan is run, a step that is over stays as it is and is not attempted again.
-/

namespace PlanRunner

open Progress

variable {settings : Settings} {environment : Environment} {plan before middle after : Plan}
  {progress : Progress} {step : Step} {turn : Turn} {id : String}

/-! ## What persists -/

theorem StepStatus.isTerminal_iff {status : StepStatus} :
    status.isTerminal = true ↔ status ≠ .pending ∧ status ≠ .running := by
  cases status <;> simp [isTerminal]

theorem Turn.isTerminal_marked (settled : turn.Settled) :
    turn.marked.status.isTerminal = true := by
  rcases status_marked settled with succeeded | failed
  · rw [succeeded]
    rfl
  · rw [failed]
    rfl

/--
A plan persists as another one if only what runs may write differs: the steps keep their order and
their designs, those that were over are the same, and so is all else but the status and the replan
count of the plan.
-/
structure Plan.Persists (before after : Plan) : Prop where
  design : after.steps.map Step.design = before.steps.map Step.design
  kept : ∀ step ∈ before.steps, step.status.isTerminal = true → step ∈ after.steps
  frame : after = { before with
    steps := after.steps
    status := after.status
    metadata := { before.metadata with replansCount := after.metadata.replansCount } }

namespace Plan.Persists

theorem refl (plan : Plan) : plan.Persists plan :=
  ⟨rfl, fun _ member _ => member, rfl⟩

theorem trans (first : before.Persists middle) (second : middle.Persists after) :
    before.Persists after := by
  refine ⟨second.design.trans first.design, fun step member isOver => ?_, ?_⟩
  · exact second.kept step (first.kept step member isOver) isOver
  · rw [second.frame, first.frame]

theorem ids (persists : before.Persists after) :
    after.steps.map (·.id) = before.steps.map (·.id) := by
  have ids : (·.id) ∘ Step.design = (·.id) := rfl
  have same := congrArg (List.map (·.id)) persists.design
  rwa [List.map_map, List.map_map, ids] at same

theorem distinct (persists : before.Persists after) (distinct : Step.Distinct before.steps) :
    Step.Distinct after.steps := by
  rwa [Step.Distinct, persists.ids]

end Plan.Persists

/-! ## From the start of a run to its end -/

/-- The steps that are pending at the start of a run are those that were pending or running. -/
theorem Step.rested_pending_iff : step.rested.status = .pending ↔ step.isLeft = true := by
  by_cases running : step.status = .running <;> simp [rested, isLeft, running]

theorem Plan.persists_started (plan : Plan) : plan.Persists plan.started := by
  refine ⟨design_start plan, fun step member isOver => ?_, rfl⟩
  have idle := (StepStatus.isTerminal_iff.1 isOver).2
  exact List.mem_map.2 ⟨step, member, Step.rested_of_not_running idle⟩

/-- A batch writes to steps that were pending and to nothing else. -/
theorem Progress.persists_next (distinct : Step.Distinct progress.plan.steps) :
    progress.plan.Persists (progress.next settings environment).plan := by
  refine ⟨?_, fun step member isOver => ?_, ?_⟩
  · rw [plan_next distinct, List.map_map]
    exact List.map_congr_left fun step _ => design_stepAfter
  · exact mem_next_of_not_pending distinct member (StepStatus.isTerminal_iff.1 isOver).1
  · rw [plan_next distinct]

theorem Progress.persists_of_reaches {last : Progress} (valid : plan.Valid)
    (reached : Reaches settings environment (start plan) progress)
    (reaches : Reaches settings environment progress last) : progress.plan.Persists last.plan := by
  induction reaches with
  | refl => exact .refl _
  | tail onwards advances ih =>
      obtain ⟨-, -, -, rfl⟩ := advances
      have coherent := valid.coherent_start.of_reaches (reached.trans onwards)
      exact ih.trans (persists_next coherent.distinct)

/-- Only pending steps are skipped. -/
theorem Plan.persists_skipUnreachable (distinct : Step.Distinct plan.steps) :
    plan.Persists plan.skipUnreachable := by
  refine ⟨plan.design_skipUnreachable, fun step member isOver => ?_, rfl⟩
  refine List.mem_map.2 ⟨step, member, if_neg fun unreachable => ?_⟩
  have pending := ((Step.id_mem_unreachable_iff distinct member).1 unreachable).1
  exact (StepStatus.isTerminal_iff.1 isOver).1 pending

theorem Run.persists_finish (distinct : Step.Distinct progress.plan.steps) (stop : Stop) :
    progress.plan.Persists (finish settings environment plan progress stop).plan := by
  cases stop with
  | broken error => exact .refl _
  | drained | cancelled ready =>
      have skipped := Plan.persists_skipUnreachable distinct
      exact ⟨skipped.design, skipped.kept, rfl⟩

/-! ## The turns of a run -/

/-- All turns of a run, batch by batch. -/
def Run.turns (run : Run) : List Turn :=
  run.batches.flatMap (·.turns)

/-- The steps that a run attempts, once for every attempt. -/
def Run.attempted (run : Run) : List String :=
  run.turns.map (·.step.id)

/-- The steps of a plan that a run may still attempt: those that are pending or running. -/
def Plan.unfinished (plan : Plan) : List Step :=
  plan.steps.filter (·.isLeft)

/-- What is known about the turns of a run when it stops, even if a resolver broke down. -/
structure Progress.Accounted (plan : Plan) (progress : Progress) : Prop where
  once : (progress.taken.map (·.step.id)).Nodup
  /-- Only steps that were pending or running have had turns. -/
  origin : ∀ turn ∈ progress.taken, ∃ step ∈ plan.unfinished, step.id = turn.step.id
  /-- Steps whose turns were not broken off are as the turns have left them. -/
  marked : ∀ turn ∈ progress.taken, turn.Settled → turn.marked ∈ progress.plan.steps
  /-- There are no more batches than steps that had to be attempted. -/
  few : progress.batches.length ≤ plan.unfinished.length

namespace Progress

theorem exists_unfinished (member : step ∈ (start plan).plan.steps)
    (pending : step.status = .pending) : ∃ old ∈ plan.unfinished, old.id = step.id := by
  rw [steps_start] at member
  obtain ⟨old, oldMember, rfl⟩ := List.mem_map.1 member
  exact ⟨old, List.mem_filter.2 ⟨oldMember, Step.rested_pending_iff.1 pending⟩, old.id_rested.symm⟩

/-- What is over when a run starts was over before, since steps that were running are pending. -/
theorem mem_of_mem_start (member : step ∈ (start plan).plan.steps)
    (isOver : step.status.isTerminal = true) : step ∈ plan.steps := by
  rw [steps_start] at member
  obtain ⟨old, oldMember, rfl⟩ := List.mem_map.1 member
  have begun := (StepStatus.isTerminal_iff.1 isOver).1
  have rested : old.rested = old := by
    refine if_neg fun running => begun (Step.rested_pending_iff.2 ?_)
    simp [Step.isLeft, running]
  exact rested.symm ▸ oldMember

theorem left_start (plan : Plan) : (start plan).left = plan.unfinished.length := by
  rw [left, steps_start, List.filter_map, List.length_map, Plan.unfinished]
  refine congrArg List.length (List.filter_congr fun step _ => ?_)
  simp [Step.rested_pending_iff]

/-- Every batch leaves fewer steps pending, so that there are no more batches than steps. -/
theorem length_batches_add_left_le (valid : plan.Valid)
    (reaches : Reaches settings environment (start plan) progress) :
    progress.batches.length + progress.left ≤ plan.unfinished.length := by
  induction reaches with
  | refl =>
      rw [left_start]
      simp [start]
  | @tail before after reached advances ih =>
      have distinct := (valid.coherent_start.of_reaches reached).distinct
      have fewer := left_next_lt distinct advances
      obtain rfl := advances.next
      rw [batches_next, List.length_append, List.length_singleton]
      omega

namespace Coherent

theorem accounted (coherent : Coherent (start plan) progress)
    (few : progress.batches.length ≤ plan.unfinished.length) : progress.Accounted plan := by
  refine ⟨coherent.once, fun turn member => ?_, fun turn member _ => ?_, few⟩
  · obtain ⟨step, stepMember, pending, started⟩ := coherent.origin turn member
    obtain ⟨old, oldMember, named⟩ := exists_unfinished stepMember pending
    exact ⟨old, oldMember, by rw [named, started]⟩
  · exact coherent.marked turn member

/-- One more batch breaks nothing of this, though a resolver may break down in it. -/
theorem accounted_next (coherent : Coherent (start plan) progress)
    (few : progress.batches.length + 1 ≤ plan.unfinished.length) :
    (progress.next settings environment).Accounted plan := by
  have distinct := coherent.distinct
  have known := coherent.accounted (Nat.le_of_succ_le few)
  refine ⟨?_, fun turn member => ?_, fun turn member settled => ?_, ?_⟩
  · rw [taken_next]
    exact coherent.once_next
  · rcases List.mem_append.1 (taken_next ▸ member) with earlier | new
    · exact known.origin turn earlier
    · obtain ⟨step, stepMember, ready, -, started⟩ := coherent.of_mem_nextBatch new
      have pending := (Step.isReady_iff.1 ready).1
      obtain ⟨old, oldMember, named⟩ :=
        exists_unfinished (coherent.mem_start_of_pending stepMember pending) pending
      exact ⟨old, oldMember, by rw [named, started]⟩
  · rcases List.mem_append.1 (taken_next ▸ member) with earlier | new
    · refine mem_next_of_not_pending distinct (coherent.marked turn earlier) ?_
      exact not_pending_marked settled
    · exact marked_mem_next distinct new
  · rw [batches_next, List.length_append, List.length_singleton]
    exact few

end Coherent

end Progress

theorem Plan.Valid.exists_accounted (valid : plan.Valid) (settings : Settings)
    (environment : Environment) :
    ∃ final : Progress, final.Accounted plan ∧
      (plan.run settings environment).batches = final.batches ∧
      plan.Persists final.plan ∧ final.plan.Persists (plan.run settings environment).plan := by
  obtain ⟨last, final, stop, reaches, stops, ran⟩ := valid.run_stops settings environment
  have coherent := valid.coherent_start.of_reaches reaches
  have counted := length_batches_add_left_le valid reaches
  have untilLast := plan.persists_started.trans (persists_of_reaches valid .refl reaches)
  have toFinal : final.Accounted plan ∧ last.plan.Persists final.plan := by
    cases stops with
    | drained _ | cancelled _ _ =>
        exact ⟨coherent.accounted (Nat.le_of_add_right_le counted), .refl _⟩
    | broken ready _ _ =>
        have notDone : last.left ≠ 0 := fun nothing => ready (ready_eq_nil_of_left nothing)
        exact ⟨coherent.accounted_next (by omega), persists_next coherent.distinct⟩
  obtain ⟨accounted, onwards⟩ := toFinal
  have persists := untilLast.trans onwards
  refine ⟨final, accounted, ?_, persists, ?_⟩
  · rw [ran, Run.batches_finish]
  · rw [ran]
    exact Run.persists_finish (persists.distinct valid.distinct) stop

/-- Where a run stops its turns are accounted for, and its end changes no step that is over. -/
theorem Plan.exists_accounted (plan : Plan) (settings : Settings) (environment : Environment) :
    ∃ final : Progress, final.Accounted plan ∧
      (plan.run settings environment).batches = final.batches ∧
      plan.Persists final.plan ∧ final.plan.Persists (plan.run settings environment).plan := by
  by_cases valid : plan.Valid
  · exact valid.exists_accounted settings environment
  · obtain ⟨error, ran⟩ := Plan.run_of_not_valid valid settings environment
    rw [ran]
    refine ⟨⟨plan, [], [], [], 0⟩, ⟨?_, ?_, ?_, Nat.zero_le _⟩, rfl, .refl _, .refl _⟩ <;>
      simp [taken]

/-! ## One run -/

namespace Plan

theorem persists_run (plan : Plan) (settings : Settings) (environment : Environment) :
    plan.Persists (plan.run settings environment).plan := by
  obtain ⟨final, -, -, persists, onwards⟩ := plan.exists_accounted settings environment
  exact persists.trans onwards

theorem nodup_attempted (plan : Plan) (settings : Settings) (environment : Environment) :
    (plan.run settings environment).attempted.Nodup := by
  obtain ⟨final, accounted, batches, -, -⟩ := plan.exists_accounted settings environment
  rw [Run.attempted, Run.turns, batches]
  exact accounted.once

/-- A run attempts only steps that were pending or running. -/
theorem exists_of_attempted (member : id ∈ (plan.run settings environment).attempted) :
    ∃ step ∈ plan.unfinished, step.id = id := by
  obtain ⟨final, accounted, batches, -, -⟩ := plan.exists_accounted settings environment
  rw [Run.attempted, Run.turns, batches] at member
  obtain ⟨turn, turnMember, rfl⟩ := List.mem_map.1 member
  exact accounted.origin turn turnMember

theorem length_batches_run_le (plan : Plan) (settings : Settings) (environment : Environment) :
    (plan.run settings environment).batches.length ≤ plan.unfinished.length := by
  obtain ⟨final, accounted, batches, -, -⟩ := plan.exists_accounted settings environment
  rw [batches]
  exact accounted.few

/-- A report has a record of every attempt, and of nothing else. -/
theorem records_perm_attempted {report : Report}
    (outcome : (plan.run settings environment).outcome = .ok report) :
    (report.executedSteps.map (·.stepId)).Perm (plan.run settings environment).attempted := by
  obtain ⟨last, concludes⟩ := Plan.concludes_of_run_ok outcome
  rw [Run.attempted, Run.turns, concludes.batches, concludes.records]
  exact stepIds_records_perm concludes.reaches

/-- A step whose turn was not broken off is as the turn has left it. -/
theorem marked_mem_run (member : turn ∈ (plan.run settings environment).turns)
    (settled : turn.Settled) : turn.marked ∈ (plan.run settings environment).plan.steps := by
  obtain ⟨final, accounted, batches, -, onwards⟩ := plan.exists_accounted settings environment
  rw [Run.turns, batches] at member
  exact onwards.kept _ (accounted.marked turn member settled) (Turn.isTerminal_marked settled)

/-- What is over between two batches of a run is over in the same way at the end of the run. -/
theorem persists_of_split {later : List Batch} (valid : plan.Valid)
    (reaches : Reaches settings environment (start plan) progress)
    (split : (plan.run settings environment).batches = progress.batches ++ later) :
    progress.plan.Persists (plan.run settings environment).plan := by
  have coherent := valid.coherent_start.of_reaches reaches
  have persists := plan.persists_run settings environment
  refine ⟨persists.design.trans (coherent.design.trans (design_start plan)).symm,
    fun step member isOver => ?_, ?_⟩
  · by_cases isTaken : step.id ∈ progress.taken.map (·.step.id)
    · obtain ⟨turn, turnMember, named⟩ := List.mem_map.1 isTaken
      rw [← coherent.marked_eq turnMember member named]
      refine marked_mem_run ?_ (coherent.settled turn turnMember)
      rw [Run.turns, split, List.flatMap_append]
      exact List.mem_append_left _ turnMember
    · exact persists.kept step (mem_of_mem_start (coherent.untouched step member isTaken) isOver)
        isOver
  · rw [persists.frame, coherent.frame]
    rfl

/-- A step that is over is not attempted. -/
theorem not_attempted_of_over (member : step ∈ plan.steps)
    (isOver : step.status.isTerminal = true) :
    step.id ∉ (plan.run settings environment).attempted := by
  intro attempted
  have valid : plan.Valid := by
    by_contra invalid
    obtain ⟨error, ran⟩ := Plan.run_of_not_valid invalid settings environment
    rw [ran] at attempted
    contradiction
  obtain ⟨other, unfinished, same⟩ := exists_of_attempted attempted
  obtain ⟨otherMember, isLeft⟩ := List.mem_filter.1 unfinished
  rw [valid.distinct.eq_of_id_eq otherMember member same] at isLeft
  rw [StepStatus.isTerminal_iff] at isOver
  simp [Step.isLeft, isOver] at isLeft

end Plan

/-! ## Steps in flight -/

/-- A batch keeps to the limit. Without a cap the limit is the greatest word. -/
theorem Settings.length_batch_le (settings : Settings) {ready : List String}
    (fits : settings.batchCap?.isSome = true ∨ ready.length < UInt64.size) :
    (settings.batch ready).length ≤ settings.batchLimit.toNat := by
  unfold batch batchLimit
  cases capped : settings.batchCap? with
  | some cap => simp
  | none =>
      have short : ready.length < UInt64.size := by simpa [capped] using fits
      exact Nat.le_of_lt_succ short

namespace Progress

theorem length_chosen_le (coherent : Coherent (start plan) progress)
    (fits : settings.batchCap?.isSome = true ∨ plan.steps.length < UInt64.size) :
    (progress.chosen settings).length ≤ settings.batchLimit.toNat := by
  refine settings.length_batch_le (fits.imp_right fun short => lt_of_le_of_lt ?_ short)
  have designs := congrArg List.length (coherent.design.trans (design_start plan))
  rw [List.length_map, List.length_map] at designs
  rw [Step.ready, List.length_map, ← designs]
  exact List.length_filter_le _ _

/-- At every moment no more steps are running than the batch under way has taken. -/
theorem Coherent.length_running_le (coherent : Coherent (start plan) progress) {done : List Turn}
    (part : done ⊆ (progress.nextBatch settings environment).turns) :
    (((progress.nextBatch settings environment).during done progress.plan).idsWithStatus
      .running).length ≤ (progress.chosen settings).length := by
  have distinct := coherent.distinct
  have nodup : (((progress.nextBatch settings environment).during done
      progress.plan).idsWithStatus .running).Nodup :=
    (distinct_during distinct).sublist (List.filter_sublist.map _)
  refine (nodup.subperm fun id member => ?_).length_le
  obtain ⟨late, filtered, rfl⟩ := List.mem_map.1 member
  obtain ⟨lateMember, running⟩ := List.mem_filter.1 filtered
  rw [steps_during distinct] at lateMember
  obtain ⟨step, stepMember, rfl⟩ := List.mem_map.1 lateMember
  rw [Turn.id_settle, Step.id_started]
  by_contra absent
  rw [settle_started_of_not_mem part distinct absent] at running
  exact coherent.idle step stepMember (by simpa using running)

end Progress

/-- The batch under way and the steps that are running keep to the limit at every moment. -/
theorem Plan.length_inFlight_le {earlier later : List Batch} {batch : Batch}
    {done waiting : List Turn}
    (split : (plan.run settings environment).batches = earlier ++ batch :: later)
    (ended : environment.ended batch.turns = done ++ waiting)
    (fits : settings.batchCap?.isSome = true ∨ plan.steps.length < UInt64.size) :
    batch.turns.length ≤ settings.batchLimit.toNat ∧
      ((plan.during environment earlier batch done).idsWithStatus .running).length ≤
        settings.batchLimit.toNat := by
  obtain ⟨valid, middle, reaches, rfl, rfl⟩ := Plan.exists_of_batches_run split
  have coherent := valid.coherent_start.of_reaches reaches
  have limited := length_chosen_le coherent fits
  have ids : (middle.nextBatch settings environment).turns.map (·.step.id) =
      middle.chosen settings := ids_nextBatch environment coherent.distinct
  have lengths := congrArg List.length ids
  rw [List.length_map] at lengths
  refine ⟨lengths.trans_le limited, ?_⟩
  rw [Plan.during, ← plan_eq_replay valid reaches]
  refine (coherent.length_running_le fun turn member => ?_).trans limited
  refine (ended_perm environment _).subset ?_
  rw [ended]
  exact List.mem_append_left _ member

/-! ## Many runs -/

/-- The runs of a plan one after the other, each with its own settings and in its own world. -/
def Plan.stages : Plan → List (Settings × Environment) → List Stage
  | _, [] => []
  | plan, (settings, environment) :: rest =>
      ⟨settings, environment, plan⟩ :: stages (plan.run settings environment).plan rest

theorem Plan.persists_of_mem_stages {worlds : List (Settings × Environment)} {stage : Stage}
    (member : stage ∈ plan.stages worlds) : plan.Persists stage.plan := by
  induction worlds generalizing plan with
  | nil => contradiction
  | cons world rest ih =>
      rcases List.mem_cons.1 member with rfl | later
      · exact .refl _
      · exact (plan.persists_run _ _).trans (ih later)

/-- No later run changes what is over, or attempts it again. -/
theorem Plan.pairwise_stages (plan : Plan) (worlds : List (Settings × Environment)) :
    (plan.stages worlds).Pairwise fun first second =>
      first.run.plan.Persists second.plan ∧
        ∀ turn ∈ first.run.turns, turn.Settled → turn.step.id ∉ second.run.attempted := by
  induction worlds generalizing plan with
  | nil => exact .nil
  | cons world rest ih =>
      refine List.pairwise_cons.2 ⟨fun second later => ?_, ih _⟩
      have persists := persists_of_mem_stages later
      refine ⟨persists, fun turn member settled => ?_⟩
      have isOver := Turn.isTerminal_marked settled
      rw [← turn.id_marked]
      exact not_attempted_of_over (persists.kept _ (marked_mem_run member settled) isOver) isOver

/--
In every one of any number of runs of a plan, whether or not it gives a report, a step is attempted
once at most, and only if it was pending or running before. The report has one record of every
attempt. Neither a batch nor the steps that are running at a moment are more than the limit allows,
and there are no more batches than there were steps to attempt. What is over stays as it is, in the
run and in all later ones, and so does all that describes the plan.
-/
theorem attempted_at_most_once (plan : Plan) (worlds : List (Settings × Environment)) :
    (∀ stage ∈ plan.stages worlds,
      plan.Persists stage.plan ∧ stage.plan.Persists stage.run.plan ∧
      stage.run.attempted.Nodup ∧
      (∀ id ∈ stage.run.attempted, ∃ step ∈ stage.plan.unfinished, step.id = id) ∧
      (∀ report, stage.run.outcome = .ok report →
        (report.executedSteps.map (·.stepId)).Perm stage.run.attempted) ∧
      stage.run.batches.length ≤ stage.plan.unfinished.length ∧
      ∀ earlier batch later done waiting,
        stage.run.batches = earlier ++ batch :: later →
        stage.environment.ended batch.turns = done ++ waiting →
        stage.settings.batchCap?.isSome = true ∨ stage.plan.steps.length < UInt64.size →
          batch.turns.length ≤ stage.settings.batchLimit.toNat ∧
          ((stage.plan.during stage.environment earlier batch done).idsWithStatus
            .running).length ≤ stage.settings.batchLimit.toNat) ∧
    (plan.stages worlds).Pairwise fun first second =>
      first.run.plan.Persists second.plan ∧
        ∀ turn ∈ first.run.turns, turn.Settled → turn.step.id ∉ second.run.attempted := by
  refine ⟨fun stage member => ?_, plan.pairwise_stages worlds⟩
  exact ⟨Plan.persists_of_mem_stages member, stage.plan.persists_run _ _,
    stage.plan.nodup_attempted _ _, fun id attempted => Plan.exists_of_attempted attempted,
    fun report outcome => Plan.records_perm_attempted outcome,
    stage.plan.length_batches_run_le _ _,
    fun earlier batch later done waiting => Plan.length_inFlight_le⟩

/-- A step that is done, two that an earlier run has left, and one that waits for one of them. -/
def harvestPlan : Plan :=
  { Plan.blank with
    id := "harvest"
    steps :=
      [{ Step.new "plough" "tractor" .null with status := .succeeded, result := some .null },
        { (Step.new "sow" "drill" .null).dependingOn ["plough"] with status := .running },
        Step.new "water" "pump" .null,
        (Step.new "reap" "combine" .null).dependingOn ["sow"]] }

/-- A world in which one step fails, and the run is cancelled at some point. -/
def harvestWorld (cancelAt : Option CancelPoint) : Environment :=
  Rehearsal.environment
    { context := {}, scripts := [("water", [⟨10, .failure "dry"⟩])], cancelAt
      cuesResolver := false } "run" default

/-- A run that is cancelled when the first batch is over. -/
def harvestFirst : Stage :=
  ⟨{ maxParallelSteps := 2 }, harvestWorld (some (.afterStep "sow")), harvestPlan⟩

/-- The run of what the first one has left. -/
def harvestSecond : Stage :=
  ⟨{ maxParallelSteps := 2 }, harvestWorld none, harvestFirst.run.plan⟩

/-- Of two runs the first attempts two steps at once, and the second attempts neither again. -/
theorem attempted_at_most_once_harvest :
    harvestFirst.run.attempted = ["sow", "water"] ∧ harvestSecond.run.attempted = ["reap"] ∧
    harvestPlan.Persists harvestSecond.plan ∧ harvestSecond.plan.Persists harvestSecond.run.plan ∧
    harvestFirst.run.attempted.Nodup ∧ harvestFirst.run.batches.length ≤ 3 ∧
    (∀ batch ∈ harvestFirst.run.batches, batch.turns.length ≤ 2) ∧
    ∀ turn ∈ harvestFirst.run.turns, turn.Settled ∧
      turn.step.id ∉ harvestSecond.run.attempted := by
  obtain ⟨runs, once⟩ := attempted_at_most_once harvestPlan
    [(harvestFirst.settings, harvestFirst.environment),
      (harvestSecond.settings, harvestSecond.environment)]
  obtain ⟨-, -, nodup, -, -, few, limited⟩ := runs harvestFirst List.mem_cons_self
  obtain ⟨persists, onwards, -⟩ :=
    runs harvestSecond (List.mem_cons_of_mem _ List.mem_cons_self)
  obtain ⟨-, later⟩ := (List.pairwise_cons.1 once).1 harvestSecond List.mem_cons_self
  have settled : ∀ turn ∈ harvestFirst.run.turns, turn.Settled := by
    unfold Turn.Settled
    decide +kernel
  have small : ∀ batch ∈ harvestFirst.run.batches, batch.turns.length ≤ 2 := by
    intro batch member
    obtain ⟨earlier, later, split⟩ := List.append_of_mem member
    have limit : harvestFirst.settings.batchLimit = 2 := Settings.batchLimit_eq _
    have inFlight := limited earlier batch later [] _ split rfl (.inl rfl)
    rw [limit] at inFlight
    exact inFlight.1
  exact ⟨by decide +kernel, by decide +kernel, persists, onwards, nodup, few, small,
    fun turn member => ⟨settled turn member, later turn member (settled turn member)⟩⟩

end PlanRunner
