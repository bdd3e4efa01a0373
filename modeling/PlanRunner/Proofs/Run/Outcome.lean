import PlanRunner.Proofs.Plan.Validity
import PlanRunner.Proofs.Run.Coherence
import PlanRunner.Run.Timeline

/-!
# How a run ends

A run of a valid plan starts with no step in flight and goes on batch by batch until it stops. If no
resolver breaks down it gives a report, and it leaves the plan as the last batch did, but for the
steps that can never run. The records of the report are those of the turns, in the order in which
the turns of each batch ended.
-/

namespace PlanRunner

open Progress

variable {settings : Settings} {environment : Environment} {plan : Plan} {progress : Progress}
  {report : Report} {step : Step} {id : String}

/-- A plan at the start of a run: no step is left running from an earlier one. -/
def Plan.started (plan : Plan) : Plan :=
  { plan.reset with status := .running }

/-- A run before its first batch. -/
def Progress.start (plan : Plan) : Progress :=
  { plan := plan.started, batches := [], records := [], operations := [], now := 0 }

/-- A step at the start of a run. -/
def Step.rested (step : Step) : Step :=
  if step.status = .running then { step with status := .pending } else step

@[simp] theorem Step.id_rested (step : Step) : step.rested.id = step.id := by
  unfold rested
  split <;> rfl

@[simp] theorem Step.design_rested (step : Step) : step.rested.design = step.design := by
  unfold rested
  split <;> rfl

theorem Step.not_running_rested (step : Step) : step.rested.status ≠ .running := by
  unfold rested
  split
  · simp
  · assumption

theorem Step.rested_of_not_running (idle : step.status ≠ .running) : step.rested = step :=
  if_neg idle

/-- A pending step that was set running is as it was once it is pending again. -/
theorem Step.rested_running_of_pending (pending : step.status = .pending) :
    rested { step with status := .running } = step := by
  cases step
  cases pending
  rfl

@[simp] theorem Step.running_rested (step : Step) :
    { step.rested with status := .running } = { step with status := .running } := by
  unfold rested
  split <;> rfl

theorem Step.map_rested_of_idle {steps : List Step}
    (idle : ∀ step ∈ steps, step.status ≠ .running) : steps.map Step.rested = steps :=
  (List.map_congr_left fun step member => Step.rested_of_not_running (idle step member)).trans
    (List.map_id steps)

theorem steps_start (plan : Plan) : (start plan).plan.steps = plan.steps.map Step.rested := rfl

theorem design_start (plan : Plan) :
    (start plan).plan.steps.map Step.design = plan.steps.map Step.design := by
  rw [steps_start, List.map_map]
  exact List.map_congr_left fun step _ => step.design_rested

theorem Plan.Valid.coherent_start (valid : plan.Valid) : Coherent (start plan) (start plan) := by
  refine .refl ((Step.distinct_map Step.id_rested).2 valid.distinct) ?_ rfl
  intro step member
  obtain ⟨old, -, rfl⟩ := List.mem_map.1 member
  exact Step.not_running_rested old

/-- All along a run an edge leads to every step from what it depends on. -/
theorem Progress.Coherent.leads_iff (coherent : Coherent (start plan) progress)
    {source target : String} :
    plan.graph.Leads source target ↔
      ∃ step ∈ progress.plan.steps, step.id = target ∧ source ∈ step.dependencies := by
  have designs : progress.plan.steps.map Step.design = plan.steps.map Step.design :=
    coherent.design.trans (design_start plan)
  rw [← Plan.graph_eq_of_design designs]
  exact Graph.leads_ofSteps

namespace Progress.Coherent

theorem nodes (coherent : Coherent (start plan) progress) :
    plan.graph.nodes = progress.plan.steps.map (·.id) := by
  rw [← Plan.graph_eq_of_design (coherent.design.trans (design_start plan))]
  rfl

/-- All that leads to a step that has had its turn is done. -/
theorem dependency_of_taken (coherent : Coherent (start plan) progress) {target : String}
    (isTaken : target ∈ progress.taken.map (·.step.id)) (leads : plan.graph.Leads id target) :
    ∃ dependency ∈ progress.plan.steps,
      dependency.id = id ∧ dependency.satisfiesDependents = true := by
  obtain ⟨turn, member, rfl⟩ := List.mem_map.1 isTaken
  obtain ⟨step, stepMember, named, depends⟩ := coherent.leads_iff.1 leads
  rw [← coherent.marked_eq member stepMember named.symm, Turn.marked, Turn.dependencies_mark]
    at depends
  exact coherent.justified turn member id depends

/-- All that leads to a step of the next batch is done. -/
theorem dependency_of_chosen (coherent : Coherent (start plan) progress) {target : String}
    (chosen : target ∈ progress.chosen settings) (leads : plan.graph.Leads id target) :
    ∃ dependency ∈ progress.plan.steps,
      dependency.id = id ∧ dependency.satisfiesDependents = true := by
  obtain ⟨step, stepMember, rfl, ready⟩ := exists_of_mem_chosen chosen
  obtain ⟨other, otherMember, named, depends⟩ := coherent.leads_iff.1 leads
  rw [coherent.distinct.eq_of_id_eq otherMember stepMember named] at depends
  exact coherent.dependency_of_ready ready depends

end Progress.Coherent

/-! ## Reports -/

/-- A run of a valid plan takes batches, as many as there are steps at most. -/
theorem Plan.Valid.run_eq (valid : plan.Valid) (settings : Settings) (environment : Environment) :
    plan.run settings environment = Run.finish settings environment plan
      (runBatches settings environment plan.started.steps.length (start plan)).1
      (runBatches settings environment plan.started.steps.length (start plan)).2 := by
  rw [Plan.run, Plan.validate_eq_ok.2 valid]
  rfl

theorem Run.batches_finish (settings : Settings) (environment : Environment) (plan : Plan)
    (progress : Progress) (stop : Stop) :
    (finish settings environment plan progress stop).batches = progress.batches := by
  cases stop <;> rfl

/-- A run of a plan that is not valid does nothing. -/
theorem Plan.run_of_not_valid (invalid : ¬plan.Valid) (settings : Settings)
    (environment : Environment) :
    ∃ error, plan.run settings environment =
      { outcome := .error (.plan error), plan, history := none } := by
  unfold Plan.run
  cases checked : plan.validate with
  | error error => exact ⟨error, rfl⟩
  | ok _ => exact absurd (Plan.validate_eq_ok.1 checked) invalid

/-- A run of a valid plan stops for a reason. -/
theorem Plan.Valid.run_stops (valid : plan.Valid) (settings : Settings)
    (environment : Environment) :
    ∃ last final stop, Reaches settings environment (start plan) last ∧
      Stops settings environment last final stop ∧
        plan.run settings environment = Run.finish settings environment plan final stop := by
  have enough : (start plan).left ≤ plan.started.steps.length := List.length_filter_le _ _
  obtain ⟨last, reaches, stops⟩ :=
    runBatches_stops settings environment valid.coherent_start.distinct enough
  exact ⟨last, _, _, reaches, stops, valid.run_eq settings environment⟩

/-- What a run that gives a report has come to before the steps that can never run are skipped. -/
structure Plan.Concludes (settings : Settings) (environment : Environment) (plan : Plan)
    (report : Report) (last : Progress) : Prop where
  valid : plan.Valid
  reaches : Reaches settings environment (start plan) last
  drained : report.cancelled = false → Step.ready last.plan.steps = []
  cancelled : report.cancelled = true →
    Step.ready last.plan.steps ≠ [] ∧ environment.cancelled last.batches = true
  steps : (plan.run settings environment).plan.steps = last.plan.skipUnreachable.steps
  records : report.executedSteps = last.records
  batches : (plan.run settings environment).batches = last.batches

theorem Plan.valid_of_run_ok (outcome : (plan.run settings environment).outcome = .ok report) :
    plan.Valid := by
  by_contra invalid
  obtain ⟨error, ran⟩ := Plan.run_of_not_valid invalid settings environment
  rw [ran] at outcome
  contradiction

theorem Plan.concludes_of_run_ok
    (outcome : (plan.run settings environment).outcome = .ok report) :
    ∃ last, plan.Concludes settings environment report last := by
  have valid := Plan.valid_of_run_ok outcome
  obtain ⟨last, final, stop, reaches, stops, ran⟩ := valid.run_stops settings environment
  rw [ran] at outcome
  cases stops with
  | drained drained =>
      cases outcome
      exact ⟨last, valid, reaches, fun _ => drained, by simp [Run.report, Stop.isCancelled],
        by rw [ran]; rfl, rfl, by rw [ran]; rfl⟩
  | cancelled ready cancelled =>
      cases outcome
      exact ⟨last, valid, reaches, by simp [Run.report, Stop.isCancelled],
        fun _ => ⟨ready, cancelled⟩, by rw [ran]; rfl, rfl, by rw [ran]; rfl⟩
  | broken ready free broke => contradiction

/-- A run that was not cancelled went on until no step was ready, and ended there. -/
theorem Plan.exists_drained_of_run_ok
    (outcome : (plan.run settings environment).outcome = .ok report)
    (uncancelled : report.cancelled = false) :
    ∃ last, Reaches settings environment (start plan) last ∧
      Step.ready last.plan.steps = [] ∧
        plan.run settings environment =
          Run.finish settings environment plan last .drained := by
  have valid := Plan.valid_of_run_ok outcome
  obtain ⟨last, final, stop, reaches, stops, ran⟩ := valid.run_stops settings environment
  rw [ran] at outcome
  cases stops with
  | drained drained => exact ⟨last, reaches, drained, ran⟩
  | cancelled ready cancelled =>
      cases outcome
      simp [Run.report, Stop.isCancelled] at uncancelled
  | broken ready free broke => contradiction

/-- A run of a valid plan gives a report if every resolution is found. -/
theorem Plan.Valid.run_ok (valid : plan.Valid)
    (resolves : ∀ step steps, ∃ resolution,
      (environment.resolve step steps).value = .ok resolution) :
    ∃ report, (plan.run settings environment).outcome = .ok report := by
  obtain ⟨last, final, stop, reaches, stops, ran⟩ := valid.run_stops settings environment
  rw [ran]
  cases stops with
  | drained _ => exact ⟨_, rfl⟩
  | cancelled _ _ => exact ⟨_, rfl⟩
  | broken ready free broke =>
      obtain ⟨turn, member, isBroken⟩ := broke
      have coherent := valid.coherent_start.of_reaches reaches
      obtain ⟨step, -, -, rfl⟩ := (mem_nextBatch_iff coherent.distinct).1 member
      obtain ⟨resolution, resolved⟩ := resolves { step with status := .running }
        (last.launched settings).steps
      have settled : (Turn.take settings environment.toGateways _ _).Settled :=
        Turn.settled_take resolved
      rw [settled] at isBroken
      contradiction

/-- A run of which a part of the report has been seen gives a report with that part. -/
theorem Run.exists_of_seen {α : Type} {run : Run} {view : Report → α} {value : α}
    (seen : run.outcome.toOption.map view = some value) :
    ∃ report, run.outcome = .ok report ∧ view report = value := by
  cases outcome : run.outcome with
  | error error => simp [outcome, Except.toOption] at seen
  | ok report => exact ⟨report, rfl, by simpa [outcome, Except.toOption] using seen⟩

/-- If a run of a plan gives a report then it was not cancelled. -/
def Plan.Uncancelled (settings : Settings) (environment : Environment) (plan : Plan) : Prop :=
  ∀ report, (plan.run settings environment).outcome = .ok report → report.cancelled = false

theorem Plan.uncancelled_of_free (free : ∀ batches, environment.cancelled batches = false) :
    plan.Uncancelled settings environment := by
  intro report outcome
  obtain ⟨last, concludes⟩ := Plan.concludes_of_run_ok outcome
  by_contra isCancelled
  obtain ⟨-, seen⟩ := concludes.cancelled (by simpa using isCancelled)
  rw [free] at seen
  contradiction

/-- A run of a valid plan comes to an end if its arguments are resolved by templates. -/
theorem Plan.Valid.concludes (valid : plan.Valid) {input : String} (settings : Settings)
    (templates : environment.UsesTemplates input) :
    ∃ report last, (plan.run settings environment).outcome = .ok report ∧
      plan.Concludes settings environment report last := by
  obtain ⟨report, outcome⟩ := valid.run_ok fun step steps => ⟨_, templates step steps⟩
  obtain ⟨last, concludes⟩ := Plan.concludes_of_run_ok outcome
  exact ⟨report, last, outcome, concludes⟩

/-! ## Records -/

/-- The records of a run so far are those of its turns. -/
theorem stepIds_records_perm
    (reaches : Reaches settings environment (start plan) progress) :
    (progress.records.map (·.stepId)).Perm (progress.taken.map (·.step.id)) := by
  induction reaches with
  | refl => exact .refl _
  | @tail before after _ advances ih =>
      rw [stepIds_next advances, advances.next, taken_next, List.map_append]
      exact ih.append ((ended_perm environment _).map _)

namespace Plan.Concludes

variable {last : Progress}

theorem coherent (concludes : plan.Concludes settings environment report last) :
    Coherent (start plan) last :=
  concludes.valid.coherent_start.of_reaches concludes.reaches

/-- No step has two records. -/
theorem nodup_records (concludes : plan.Concludes settings environment report last) :
    (report.executedSteps.map (·.stepId)).Nodup := by
  rw [concludes.records, (stepIds_records_perm concludes.reaches).nodup_iff]
  exact concludes.coherent.once

/-- A step with a turn has one record, and any other step has none. -/
theorem countP_records (concludes : plan.Concludes settings environment report last)
    (id : String) :
    report.executedSteps.countP (·.stepId = id) =
      if id ∈ last.taken.map (·.step.id) then 1 else 0 := by
  have perm := stepIds_records_perm concludes.reaches
  have counted : report.executedSteps.countP (·.stepId = id) =
      (report.executedSteps.map (·.stepId)).count id := by
    simp [List.count, List.countP_map, Function.comp_def, beq_eq_decide]
  rw [counted, concludes.records, perm.count_eq]
  exact concludes.coherent.once.count

end Plan.Concludes

/-! ## Steps at the end -/

/-- A step at the end of a run that was not cancelled: if it is still pending it is skipped. -/
def Step.abandoned (step : Step) : Step :=
  if step.status = .pending then { step with status := .skipped } else step

@[simp] theorem Step.id_abandoned (step : Step) : step.abandoned.id = step.id := by
  unfold abandoned
  split <;> rfl

theorem Step.abandoned_of_pending (pending : step.status = .pending) :
    step.abandoned = { step with status := .skipped } :=
  if_pos pending

theorem Step.abandoned_of_not_pending (begun : step.status ≠ .pending) : step.abandoned = step :=
  if_neg begun

/-- Where no step is ready or in flight, the steps that can never run are the pending ones. -/
theorem Plan.skipUnreachable_of_drained (distinct : Step.Distinct plan.steps)
    (idle : ∀ step ∈ plan.steps, step.status ≠ .running) (drained : Step.ready plan.steps = []) :
    plan.skipUnreachable.steps = plan.steps.map Step.abandoned := by
  refine List.map_congr_left fun step member => ?_
  have unreachable : step.id ∈ Step.unreachable plan.steps ↔ step.status = .pending := by
    rw [Step.mem_unreachable_iff_of_drained distinct idle drained]
    constructor
    · rintro ⟨other, otherMember, same, pending⟩
      rwa [distinct.eq_of_id_eq otherMember member same] at pending
    · exact fun pending => ⟨step, member, rfl, pending⟩
  simp only [unreachable, Step.abandoned]

theorem Plan.Concludes.steps_of_drained {last : Progress}
    (concludes : plan.Concludes settings environment report last)
    (uncancelled : report.cancelled = false) :
    (plan.run settings environment).plan.steps = last.plan.steps.map Step.abandoned := by
  have coherent := concludes.coherent
  rw [concludes.steps]
  exact Plan.skipUnreachable_of_drained coherent.distinct coherent.idle
    (concludes.drained uncancelled)

/-- A step that is skipped keeps its design. -/
theorem Plan.design_skipUnreachable (plan : Plan) :
    plan.skipUnreachable.steps.map Step.design = plan.steps.map Step.design := by
  simp only [skipUnreachable, withStatus, List.map_map]
  refine List.map_congr_left fun step _ => ?_
  simp only [Function.comp_apply]
  split <;> rfl

/-- A run keeps all that the designs of the steps determine, the graph among it. -/
theorem Plan.Concludes.design {last : Progress}
    (concludes : plan.Concludes settings environment report last) :
    (plan.run settings environment).plan.steps.map Step.design = plan.steps.map Step.design := by
  rw [concludes.steps, ← design_start plan, ← concludes.coherent.design]
  exact last.plan.design_skipUnreachable

end PlanRunner
