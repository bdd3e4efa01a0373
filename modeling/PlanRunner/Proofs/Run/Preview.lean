import PlanRunner.Proofs.Graph.Layers
import PlanRunner.Proofs.Run.Isolation
import PlanRunner.Proofs.Run.Statuses

/-!
# The layers of a plan foretell its run

The layers of a plan are found by counting edges, before anything runs, and the batches of a run by
looking at the statuses of the steps. As long as no step fails without being optional the two agree:
between two batches the ready steps are those that come in the next layer. Without a cap on batches
a run takes layer by layer, and it skips the steps that are in no layer.
-/

namespace PlanRunner

open Progress

variable {settings : Settings} {environment : Environment} {plan before after : Plan}
  {progress last : Progress} {report : Report} {step : Step}

/-- The steps of a batch, in plan order. -/
def Batch.ids (batch : Batch) : List String :=
  batch.turns.map (·.step.id)

/-- No step of a plan failed without being optional. -/
def Plan.Unharmed (plan : Plan) : Prop :=
  ∀ step ∈ plan.steps, step.isBlockingFailure = false

/-- A failure that counts is never undone. -/
theorem Plan.Persists.unharmed (persists : before.Persists after) (unharmed : after.Unharmed) :
    before.Unharmed := by
  intro step member
  by_contra failure
  have failed : step.status = .failed := by
    simp only [Step.isBlockingFailure, Bool.not_eq_false, Bool.and_eq_true, decide_eq_true_eq]
      at failure
    exact failure.1
  have isOver : step.status.isTerminal = true := by rw [failed]; rfl
  exact failure (unharmed step (persists.kept step member isOver))

/-! ## Between two batches -/

namespace Progress

/-- The steps that have had their turns, in the order of the batches. -/
def placed (progress : Progress) : List String :=
  progress.taken.map (·.step.id)

theorem flatten_ids_batches (progress : Progress) :
    (progress.batches.map Batch.ids).flatten = progress.placed := by
  rw [placed, taken, List.map_flatMap, List.flatMap_def]
  rfl

theorem placed_next (environment : Environment) (distinct : Step.Distinct progress.plan.steps) :
    (progress.next settings environment).placed = progress.placed ++ progress.chosen settings := by
  rw [placed, taken_next, List.map_append, ids_nextBatch environment distinct, placed]

namespace Coherent

/-- A step that had its turn is done, as long as no failure counts. -/
theorem done_of_placed (coherent : Coherent (start plan) progress)
    (unharmed : progress.plan.Unharmed) {id : String} (isPlaced : id ∈ progress.placed) :
    ∃ step ∈ progress.plan.steps, step.id = id ∧ step.satisfiesDependents = true := by
  obtain ⟨turn, turnMember, rfl⟩ := List.mem_map.1 isPlaced
  have member := coherent.marked turn turnMember
  refine ⟨turn.marked, member, turn.id_marked, ?_⟩
  by_contra undone
  have failure :=
    coherent.isBlockingFailure_of_taken turnMember member turn.id_marked.symm undone
  simp [unharmed _ member] at failure

/-- A step has its turn next if it has not had it and all that it depends on has. -/
theorem isReady_iff_placed (coherent : Coherent (start plan) progress) (fresh : plan.Fresh)
    (unharmed : progress.plan.Unharmed) (member : step ∈ progress.plan.steps) :
    Step.isReady progress.plan.steps step = true ↔
      step.id ∉ progress.placed ∧
        ∀ source, plan.graph.Leads source step.id → source ∈ progress.placed := by
  constructor
  · intro ready
    refine ⟨coherent.not_taken_of_pending member (Step.isReady_iff.1 ready).1,
      fun source leads => ?_⟩
    obtain ⟨other, otherMember, same, depends⟩ := coherent.leads_iff.1 leads
    rw [coherent.distinct.eq_of_id_eq otherMember member same] at depends
    obtain ⟨dependency, dependencyMember, rfl, satisfies⟩ :=
      coherent.dependency_of_ready ready depends
    -- No step was over before the run, so that what is done now has had its turn.
    obtain ⟨turn, turnMember, named⟩ := coherent.taken_of_not_pending fresh dependencyMember
      (Step.not_pending_of_satisfiesDependents satisfies)
    exact List.mem_map.2 ⟨turn, turnMember, named⟩
  · rintro ⟨notPlaced, sourcesPlaced⟩
    have pending := fresh.pending_start (coherent.untouched step member notPlaced)
    refine Step.isReady_iff.2 ⟨pending, fun source depends => ?_⟩
    obtain ⟨dependency, dependencyMember, rfl, satisfies⟩ :=
      coherent.done_of_placed unharmed
        (sourcesPlaced source (coherent.leads_iff.2 ⟨step, member, rfl, depends⟩))
    exact ⟨dependency, (Step.find?_eq_some_iff coherent.distinct).2 ⟨dependencyMember, rfl⟩,
      satisfies⟩

/-- The ready steps are the next layer. -/
theorem ready_eq_nextLayer (valid : plan.Valid) (coherent : Coherent (start plan) progress)
    (fresh : plan.Fresh) (unharmed : progress.plan.Unharmed) :
    Step.ready progress.plan.steps = plan.graph.nextLayer progress.placed := by
  have edges : plan.graph.edges.Nodup := Graph.nodup_edges_ofSteps valid.distinct
  have once : progress.placed.Nodup := coherent.once
  rw [Step.ready, Graph.nextLayer, coherent.nodes, List.filter_map]
  refine congrArg _ (List.filter_congr fun step member => ?_)
  rw [Bool.eq_iff_iff, coherent.isReady_iff_placed fresh unharmed member,
    ← Graph.awaited_eq_zero_iff_of_nodup edges once]
  simp

/-- Without a cap the next batch is the next layer. -/
theorem layersAfter_eq_cons (valid : plan.Valid) (coherent : Coherent (start plan) progress)
    (fresh : plan.Fresh) (uncapped : settings.batchCap? = none)
    (unharmed : progress.plan.Unharmed) (ready : Step.ready progress.plan.steps ≠ []) :
    plan.graph.layersAfter progress.placed =
      (progress.nextBatch settings environment).ids ::
        plan.graph.layersAfter (progress.next settings environment).placed := by
  have next := coherent.ready_eq_nextLayer valid fresh unharmed
  have chosen : progress.chosen settings = plan.graph.nextLayer progress.placed := by
    rw [← next, Progress.chosen, Settings.batch, uncapped]
  rw [placed_next environment coherent.distinct, Batch.ids,
    ids_nextBatch environment coherent.distinct, chosen]
  exact Graph.layersAfter_of_ne_nil (next ▸ ready)

end Coherent

/-- The batches so far and the layers that are still to come are the layers of the plan. -/
theorem layers_eq_append (valid : plan.Valid) (fresh : plan.Fresh)
    (uncapped : settings.batchCap? = none)
    (reaches : Reaches settings environment (start plan) progress)
    (unharmed : progress.plan.Unharmed) :
    plan.graph.layers =
      progress.batches.map Batch.ids ++ plan.graph.layersAfter progress.placed := by
  -- A failure that counts would still be there later, so that there is none in between either.
  induction reaches with
  | refl => exact plan.graph.layersAfter_nil.symm
  | @tail before after reached advances ih =>
      have coherent := valid.coherent_start.of_reaches reached
      obtain ⟨ready, -, -, rfl⟩ := advances
      have harmless := (persists_next coherent.distinct).unharmed unharmed
      rw [ih harmless, coherent.layersAfter_eq_cons valid fresh uncapped harmless ready,
        batches_next, List.map_append, List.append_assoc]
      rfl

end Progress

/-! ## The whole run -/

/-- The batches of a run are the first layers of its plan, wherever the run stops. -/
theorem Plan.batches_prefix_layers (fresh : plan.Fresh) (uncapped : settings.batchCap? = none)
    (unharmed : (plan.run settings environment).plan.Unharmed) :
    (plan.run settings environment).batches.map Batch.ids <+: plan.graph.layers := by
  by_cases valid : plan.Valid
  · obtain ⟨last, final, stop, reaches, stops, ran⟩ := valid.run_stops settings environment
    have coherent := valid.coherent_start.of_reaches reaches
    rw [ran] at unharmed
    rw [ran, Run.batches_finish]
    cases stops with
    | drained _ | cancelled _ _ =>
        have harmless := (Run.persists_finish coherent.distinct _).unharmed unharmed
        rw [layers_eq_append valid fresh uncapped reaches harmless]
        exact List.prefix_append _ _
    | broken ready _ _ =>
        have onwards : last.plan.Persists (last.next settings environment).plan :=
          persists_next coherent.distinct
        have harmless := onwards.unharmed
          ((Run.persists_finish (distinct_next coherent.distinct) _).unharmed unharmed)
        rw [layers_eq_append valid fresh uncapped reaches harmless,
          coherent.layersAfter_eq_cons valid fresh uncapped harmless ready, batches_next,
          List.map_append]
        exact ⟨_, List.append_assoc _ _ _⟩
  · obtain ⟨error, ran⟩ := Plan.run_of_not_valid valid settings environment
    rw [ran]
    exact List.nil_prefix

namespace Plan.Concludes

theorem unharmed (concludes : plan.Concludes settings environment report last)
    (unharmed : (plan.run settings environment).plan.Unharmed) : last.plan.Unharmed := by
  rw [Plan.Unharmed, concludes.steps] at unharmed
  exact (Plan.persists_skipUnreachable concludes.coherent.distinct).unharmed unharmed

/-- A run that comes to its end takes every layer. -/
theorem ids_batches (concludes : plan.Concludes settings environment report last)
    (fresh : plan.Fresh) (uncapped : settings.batchCap? = none)
    (harmless : last.plan.Unharmed) (uncancelled : report.cancelled = false) :
    last.batches.map Batch.ids = plan.graph.layers := by
  have next := concludes.coherent.ready_eq_nextLayer concludes.valid fresh harmless
  rw [concludes.drained uncancelled] at next
  rw [layers_eq_append concludes.valid fresh uncapped concludes.reaches harmless,
    Graph.layersAfter_of_nil next.symm, List.append_nil]

/-- A run that comes to its end skips the steps that had no turn. -/
theorem skipped_eq (concludes : plan.Concludes settings environment report last)
    (fresh : plan.Fresh) (uncancelled : report.cancelled = false) :
    (plan.run settings environment).plan.idsWithStatus .skipped =
      plan.graph.nodes.filter (· ∉ last.placed) := by
  have coherent := concludes.coherent
  rw [Plan.idsWithStatus, concludes.steps_of_drained uncancelled, coherent.nodes,
    List.filter_map, List.filter_map, List.map_map]
  have ids : (·.id) ∘ Step.abandoned = (·.id) := funext Step.id_abandoned
  rw [ids]
  refine congrArg _ (List.filter_congr fun step member => ?_)
  by_cases isPlaced : step.id ∈ last.placed
  · obtain ⟨turn, turnMember, same⟩ := List.mem_map.1 isPlaced
    have marked := coherent.marked_eq turnMember member same
    rcases Turn.status_marked (coherent.settled turn turnMember) with succeeded | failed
    · rw [marked] at succeeded
      simp [Step.abandoned, succeeded, isPlaced]
    · rw [marked] at failed
      simp [Step.abandoned, failed, isPlaced]
  · have pending := concludes.pending_of_not_taken fresh member isPlaced
    simp [Step.abandoned_of_pending pending, isPlaced]

end Plan.Concludes

/--
As long as no step fails without being optional, a run without a cap on batches, of a plan none of
whose steps was over before, takes the layers of the plan as its batches: the first of them, and all
of them if it comes to its end. It does so if the plan is valid, every resolution is found and the
run is never cancelled. In the end just the steps that are in no layer are skipped.
-/
theorem batches_are_layers (fresh : plan.Fresh) (uncapped : settings.batchCap? = none)
    (unharmed : ∀ step ∈ (plan.run settings environment).plan.steps,
      step.isBlockingFailure = false) :
    (plan.run settings environment).batches.map Batch.ids <+: plan.graph.layers ∧
    (∀ report, (plan.run settings environment).outcome = .ok report → report.cancelled = false →
      (plan.run settings environment).batches.map Batch.ids = plan.graph.layers ∧
      report.skippedSteps =
        (plan.steps.map (·.id)).filter (· ∉ plan.graph.layers.flatten)) ∧
    (plan.Valid → (∀ batches, environment.cancelled batches = false) →
      (∀ step steps, ∃ resolution, (environment.resolve step steps).value = .ok resolution) →
        ∃ report, (plan.run settings environment).outcome = .ok report ∧
          report.cancelled = false) := by
  refine ⟨Plan.batches_prefix_layers fresh uncapped unharmed,
    fun report outcome uncancelled => ?_, fun valid free resolves => ?_⟩
  · obtain ⟨last, concludes⟩ := Plan.concludes_of_run_ok outcome
    have layers :=
      concludes.ids_batches fresh uncapped (concludes.unharmed unharmed) uncancelled
    rw [concludes.batches, (Plan.reported_of_run_ok outcome).skipped,
      concludes.skipped_eq fresh uncancelled, ← layers, flatten_ids_batches]
    exact ⟨rfl, rfl⟩
  · obtain ⟨report, outcome⟩ := valid.run_ok resolves
    exact ⟨report, outcome, Plan.uncancelled_of_free free report outcome⟩

/-- A world in which only the optional step of the plan with branches fails. -/
def quotaWorld : Environment :=
  Rehearsal.environment
    { context := {}
      scripts := [("enrich", [⟨10, .failure "quota"⟩])]
      cancelAt := none
      cuesResolver := false } "run" default

/-- A run past an optional failure takes two layers, and skips the cycle and what is behind it. -/
theorem batches_are_layers_branching :
    branchingPlan.Fresh ∧ ({} : Settings).batchCap? = none ∧
    (∀ step ∈ (branchingPlan.run {} quotaWorld).plan.steps, step.isBlockingFailure = false) ∧
    branchingPlan.graph.layers = [["fetch", "enrich"], ["merge", "notify"]] ∧
    ∃ report, (branchingPlan.run {} quotaWorld).outcome = .ok report ∧
      report.cancelled = false ∧ report.failedSteps = ["enrich"] ∧
      (branchingPlan.run {} quotaWorld).batches.map Batch.ids = branchingPlan.graph.layers ∧
      report.skippedSteps = ["left", "right", "after"] := by
  have fresh : branchingPlan.Fresh := by
    unfold Plan.Fresh
    decide
  have uncapped : ({} : Settings).batchCap? = none := by decide
  have unharmed : ∀ step ∈ (branchingPlan.run {} quotaWorld).plan.steps,
      step.isBlockingFailure = false := by decide +kernel
  have layers : branchingPlan.graph.layers = [["fetch", "enrich"], ["merge", "notify"]] := by
    decide +kernel
  have seen : (branchingPlan.run {} quotaWorld).outcome.toOption.map
      (fun report => (report.cancelled, report.failedSteps)) = some (false, ["enrich"]) := by
    decide +kernel
  obtain ⟨report, outcome, view⟩ := Run.exists_of_seen seen
  obtain ⟨uncancelled, failed⟩ := Prod.mk.inj view
  obtain ⟨batches, skipped⟩ :=
    (batches_are_layers fresh uncapped unharmed).2.1 report outcome uncancelled
  refine ⟨fresh, uncapped, unharmed, layers, report, outcome, uncancelled, failed, batches, ?_⟩
  rw [skipped, layers]
  decide

end PlanRunner
