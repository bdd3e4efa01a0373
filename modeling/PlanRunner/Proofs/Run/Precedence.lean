import PlanRunner.Proofs.Run.Outcome
import PlanRunner.Run.Rehearsal

/-!
# What a step depends on comes first

The batches of a run tell how far the plan has come at every moment: a batch sets the steps that
take part running, and the end of each turn writes its outcome. At every moment all that the steps
in flight depend on is done. Therefore the records of a run stand in the order of the dependencies.
-/

namespace PlanRunner

open Relation Progress

variable {settings : Settings} {environment : Environment} {plan : Plan} {progress last : Progress}
  {report : Report} {step : Step} {turn : Turn} {id : String} {earlier later : List Batch}
  {batch : Batch} {done waiting : List Turn}

/-! ## The plan at every moment -/

/-- A plan while a batch is under way, after some of its turns have ended. -/
def Batch.during (batch : Batch) (done : List Turn) (plan : Plan) : Plan :=
  done.foldl Turn.apply (plan.withStatus (batch.turns.map (·.step.id)) .running)

/-- A plan after some batches. -/
def Plan.replay (environment : Environment) (plan : Plan) (batches : List Batch) : Plan :=
  batches.foldl (fun plan batch => batch.during (environment.ended batch.turns) plan) plan

/-- A plan in its run while a batch is under way, after some turns of the batch have ended. -/
def Plan.during (environment : Environment) (plan : Plan) (earlier : List Batch) (batch : Batch)
    (done : List Turn) : Plan :=
  batch.during done (plan.started.replay environment earlier)

theorem Plan.replay_append (plan : Plan) (earlier : List Batch) (batch : Batch) :
    plan.replay environment (earlier ++ [batch]) =
      batch.during (environment.ended batch.turns) (plan.replay environment earlier) := by
  simp [replay, List.foldl_append]

/-- The next batch sets the steps that it takes running. -/
theorem Progress.during_nil (distinct : Step.Distinct progress.plan.steps) :
    (progress.nextBatch settings environment).during [] progress.plan =
      progress.launched settings := by
  rw [Batch.during, ids_nextBatch environment distinct]
  rfl

/-- When all turns of the next batch have ended, the batch is over. -/
theorem Progress.during_ended (distinct : Step.Distinct progress.plan.steps) :
    (progress.nextBatch settings environment).during
      (environment.ended (progress.nextBatch settings environment).turns) progress.plan =
        (progress.next settings environment).plan := by
  rw [Batch.during, ids_nextBatch environment distinct]
  rfl

/-- While a batch is under way, its steps are running or as the turns have left them that ended. -/
theorem Progress.steps_during (distinct : Step.Distinct progress.plan.steps) :
    ((progress.nextBatch settings environment).during done progress.plan).steps =
      progress.plan.steps.map
        fun step => Turn.settle done (step.started (progress.chosen settings)) := by
  rw [Batch.during, ids_nextBatch environment distinct, Turn.foldl_apply]
  simp [Plan.withStatus, Step.started, Function.comp_def]

theorem Progress.distinct_during (distinct : Step.Distinct progress.plan.steps) :
    Step.Distinct ((progress.nextBatch settings environment).during done progress.plan).steps := by
  rw [steps_during distinct]
  exact (Step.distinct_map fun step => by simp).2 distinct

/-- The batches of a run tell how far the plan has come. -/
theorem plan_eq_replay (valid : plan.Valid)
    (reaches : Reaches settings environment (start plan) progress) :
    progress.plan = plan.started.replay environment progress.batches := by
  induction reaches with
  | refl => rfl
  | tail reaches advances ih =>
      obtain ⟨-, -, -, rfl⟩ := advances
      have distinct := (valid.coherent_start.of_reaches reaches).distinct
      rw [batches_next, Plan.replay_append, ← ih, during_ended distinct]

/-- A batch that starts sees the plan with its own steps set running. -/
theorem Plan.during_nextBatch (valid : plan.Valid)
    (reaches : Reaches settings environment (start plan) progress) :
    plan.during environment progress.batches (progress.nextBatch settings environment) [] =
      progress.launched settings := by
  have coherent := valid.coherent_start.of_reaches reaches
  rw [Plan.during, ← plan_eq_replay valid reaches, during_nil coherent.distinct]

/-- Every batch of a run was the next one at some point. -/
theorem Plan.exists_of_batches_run
    (split : (plan.run settings environment).batches = earlier ++ batch :: later) :
    plan.Valid ∧ ∃ middle, Reaches settings environment (start plan) middle ∧
      middle.batches = earlier ∧ middle.nextBatch settings environment = batch := by
  have valid : plan.Valid := by
    by_contra invalid
    obtain ⟨error, ran⟩ := Plan.run_of_not_valid invalid settings environment
    simp [ran, Run.batches] at split
  refine ⟨valid, ?_⟩
  obtain ⟨last, final, stop, reaches, stops, ran⟩ := valid.run_stops settings environment
  have before : ∀ rest, last.batches = earlier ++ batch :: rest →
      ∃ middle, Reaches settings environment (start plan) middle ∧
        middle.batches = earlier ∧ middle.nextBatch settings environment = batch := by
    intro rest lastSplit
    obtain ⟨middle, toMiddle, batches, nextBatch, -⟩ := exists_of_batches rfl reaches lastSplit
    exact ⟨middle, toMiddle, batches, nextBatch⟩
  rw [ran] at split
  cases stops with
  | drained _ => exact before later split
  | cancelled _ _ => exact before later split
  | broken ready free broke =>
      rcases split_batches_next split with ⟨rfl, rfl⟩ | ⟨rest, lastSplit⟩
      · exact ⟨last, reaches, rfl, rfl⟩
      · exact before rest lastSplit

/-- Every turn of a run is taken by a step of the plan, which sees the steps as its batch starts. -/
theorem Plan.exists_take_of_batches_run
    (split : (plan.run settings environment).batches = earlier ++ batch :: later)
    (member : turn ∈ batch.turns) :
    ∃ step ∈ plan.steps,
      turn = Turn.take settings environment.toGateways
        (plan.during environment earlier batch []).steps { step with status := .running } := by
  obtain ⟨valid, middle, reaches, rfl, rfl⟩ := Plan.exists_of_batches_run split
  have coherent := valid.coherent_start.of_reaches reaches
  obtain ⟨old, oldMember, chosen, rfl⟩ := (mem_nextBatch_iff coherent.distinct).1 member
  have pending := pending_of_chosen coherent.distinct oldMember chosen
  have inStart := coherent.mem_start_of_pending oldMember pending
  rw [steps_start] at inStart
  obtain ⟨step, stepMember, rfl⟩ := List.mem_map.1 inStart
  refine ⟨step, stepMember, ?_⟩
  rw [Plan.during_nextBatch valid reaches, Step.running_rested]

/-! ## Steps in flight -/

namespace Progress.Coherent

/-- What is done before a batch is still there while the batch is under way. -/
theorem step?_during (coherent : Coherent (start plan) progress)
    (part : done ⊆ (progress.nextBatch settings environment).turns)
    (member : step ∈ progress.plan.steps) (begun : step.status ≠ .pending) :
    ((progress.nextBatch settings environment).during done progress.plan).step? step.id =
      some step := by
  have distinct := coherent.distinct
  have absent : step.id ∉ progress.chosen settings :=
    fun chosen => begun (pending_of_chosen distinct member chosen)
  have duringDistinct : Step.Distinct
      ((progress.nextBatch settings environment).during done progress.plan).steps :=
    distinct_during distinct
  rw [Plan.step?, Step.find?_first duringDistinct, Step.find?_eq_some_iff duringDistinct,
    steps_during distinct]
  exact ⟨List.mem_map.2 ⟨step, member, settle_started_of_not_mem part distinct absent⟩, rfl⟩

/-- While the turns of a batch are in flight, all that their steps depend on is done. -/
theorem dependency_during (coherent : Coherent (start plan) progress)
    (part : done ⊆ (progress.nextBatch settings environment).turns)
    (member : turn ∈ (progress.nextBatch settings environment).turns)
    (leads : plan.graph.Leads id turn.step.id) :
    ∃ dependency,
      ((progress.nextBatch settings environment).during done progress.plan).step? id =
        some dependency ∧ dependency.satisfiesDependents = true := by
  have chosen := mem_chosen_of_mem_nextBatch coherent.distinct member
  obtain ⟨dependency, dependencyMember, rfl, satisfies⟩ :=
    coherent.dependency_of_chosen chosen leads
  exact ⟨dependency, coherent.step?_during part dependencyMember
    (Step.not_pending_of_satisfiesDependents satisfies), satisfies⟩

/-! ## The order of the records -/

/-- No step that the next batch takes is needed by another one of them, or by an earlier one. -/
theorem not_leads_of_chosen (coherent : Coherent (start plan) progress) {target : String}
    (chosen : id ∈ progress.chosen settings)
    (reached : target ∈ progress.taken.map (·.step.id) ∨ target ∈ progress.chosen settings) :
    ¬plan.graph.Leads id target := by
  intro leads
  obtain ⟨dependency, member, rfl, satisfies⟩ : ∃ dependency ∈ progress.plan.steps,
      dependency.id = id ∧ dependency.satisfiesDependents = true := by
    rcases reached with isTaken | isChosen
    · exact coherent.dependency_of_taken isTaken leads
    · exact coherent.dependency_of_chosen isChosen leads
  exact Step.not_pending_of_satisfiesDependents satisfies
    (pending_of_chosen coherent.distinct member chosen)

end Progress.Coherent

/-- No record comes before that of a step which its own step depends on. -/
theorem pairwise_records (valid : plan.Valid)
    (reaches : Reaches settings environment (start plan) progress) :
    (progress.records.map (·.stepId)).Pairwise
      fun first second => ¬plan.graph.Leads second first := by
  induction reaches with
  | refl => exact .nil
  | @tail before after reaches advances ih =>
      have coherent := valid.coherent_start.of_reaches reaches
      have ended := ended_perm environment (before.nextBatch settings environment).turns
      have chosen : ∀ id ∈ (environment.ended
          (before.nextBatch settings environment).turns).map (·.step.id),
            id ∈ before.chosen settings := by
        intro id member
        obtain ⟨turn, turnMember, rfl⟩ := List.mem_map.1 member
        exact mem_chosen_of_mem_nextBatch coherent.distinct (ended.mem_iff.1 turnMember)
      rw [stepIds_next advances]
      -- Neither an earlier record nor another new one depends on a new one.
      refine List.pairwise_append.2 ⟨ih, ?_, ?_⟩
      · refine List.pairwise_of_forall_mem_list fun first firstMember second secondMember => ?_
        exact coherent.not_leads_of_chosen (chosen second secondMember)
          (.inr (chosen first firstMember))
      · intro first firstMember second secondMember
        exact coherent.not_leads_of_chosen (chosen second secondMember)
          (.inl ((stepIds_records_perm reaches).mem_iff.1 firstMember))

/-- One step needs another one, and both have records. -/
def Plan.LeadsRecorded (plan : Plan) (report : Report) (source target : String) : Prop :=
  plan.graph.Leads source target ∧ source ∈ report.executedSteps.map (·.stepId) ∧
    target ∈ report.executedSteps.map (·.stepId)

namespace Plan.Concludes

theorem lt_of_leads (concludes : plan.Concludes settings environment report last)
    {first second : Nat} (firstBound : first < report.executedSteps.length)
    (secondBound : second < report.executedSteps.length)
    (leads : plan.graph.Leads report.executedSteps[first].stepId
      report.executedSteps[second].stepId) : first < second := by
  have ordered := pairwise_records concludes.valid concludes.reaches
  rw [← concludes.records, List.pairwise_map, List.pairwise_iff_getElem] at ordered
  rcases Nat.lt_trichotomy first second with before | rfl | after
  · exact before
  · obtain ⟨step, member, same, depends⟩ := Graph.leads_ofSteps.1 leads
    exact absurd (same ▸ depends) (concludes.valid.apart step member)
  · exact absurd leads (ordered second first secondBound firstBound after)

/-- What a record needs, at any distance, has come before it. -/
theorem lt_of_path (concludes : plan.Concludes settings environment report last)
    {first second : Nat} (firstBound : first < report.executedSteps.length)
    (secondBound : second < report.executedSteps.length)
    (path : TransGen (plan.LeadsRecorded report) report.executedSteps[first].stepId
      report.executedSteps[second].stepId) : first < second := by
  generalize reached : report.executedSteps[second].stepId = target at path
  -- The induction is on the path, all of whose steps have records.
  induction path generalizing second with
  | single leads =>
      subst reached
      exact concludes.lt_of_leads firstBound secondBound leads.1
  | @tail between target _ leads ih =>
      subst reached
      obtain ⟨record, member, named⟩ := List.mem_map.1 leads.2.1
      obtain ⟨middle, middleBound, rfl⟩ := List.getElem_of_mem member
      have before := ih middleBound named
      have after := concludes.lt_of_leads middleBound secondBound (named ▸ leads.1)
      exact Nat.lt_trans before after

end Plan.Concludes

/--
At every moment of a run, all that the steps in flight depend on is done: their turns see the plan
as it is when their batch starts, and at the start as well as after the end of any other turns of
the batch every step that they depend on succeeded, or is optional and failed or was skipped. In the
report the record of a step comes after those of all steps that it depends on, at any distance.
-/
theorem dependencies_come_first (settings : Settings) (environment : Environment) (plan : Plan) :
    (∀ earlier batch later done waiting,
      (plan.run settings environment).batches = earlier ++ batch :: later →
      environment.ended batch.turns = done ++ waiting → ∀ turn ∈ waiting,
        turn = Turn.take settings environment.toGateways
          (plan.during environment earlier batch []).steps turn.step ∧
        ∀ id, plan.graph.Leads id turn.step.id → ∃ dependency,
          (plan.during environment earlier batch done).step? id = some dependency ∧
            (dependency.status = .succeeded ∨
              dependency.optional = true ∧
                (dependency.status = .failed ∨ dependency.status = .skipped))) ∧
    ∀ report, (plan.run settings environment).outcome = .ok report →
      ∀ first second : Fin report.executedSteps.length,
        TransGen (plan.LeadsRecorded report) report.executedSteps[first].stepId
          report.executedSteps[second].stepId → first < second := by
  constructor
  · intro earlier batch later done waiting split ended turn member
    obtain ⟨valid, middle, reaches, rfl, rfl⟩ := Plan.exists_of_batches_run split
    have coherent := valid.coherent_start.of_reaches reaches
    have inBatch : done ++ waiting ⊆ (middle.nextBatch settings environment).turns :=
      ended ▸ (ended_perm environment _).subset
    have turnMember := inBatch (List.mem_append_right _ member)
    have part := (List.append_subset.1 inBatch).1
    unfold Plan.during
    rw [← plan_eq_replay valid reaches]
    constructor
    · obtain ⟨step, -, -, rfl⟩ := (mem_nextBatch_iff coherent.distinct).1 turnMember
      rw [during_nil coherent.distinct, Turn.step_take]
    · intro id leads
      obtain ⟨dependency, found, satisfies⟩ := coherent.dependency_during part turnMember leads
      exact ⟨dependency, found, Step.satisfiesDependents_iff.1 satisfies⟩
  · intro report outcome first second path
    obtain ⟨last, concludes⟩ := Plan.concludes_of_run_ok outcome
    exact concludes.lt_of_path first.isLt second.isLt path

/-- A step behind an optional step, which is behind another one, in the opposite order. -/
def chainPlan : Plan :=
  { Plan.blank with
    id := "chain"
    steps :=
      [(Step.new "index" "search" .null).dependingOn ["unpack"],
        { (Step.new "unpack" "archive" .null).dependingOn ["download"] with optional := true },
        Step.new "download" "http" .null] }

/-- A world in which the step in the middle of the chain fails. -/
def chainWorld : Environment :=
  Rehearsal.environment
    { context := {}
      scripts := [("unpack", [⟨10, .failure "corrupt"⟩])]
      cancelAt := none
      cuesResolver := false } "run" default

/-- When the last step of the chain is in flight, the optional one before it has failed. -/
theorem dependencies_come_first_chain :
    ∃ report earlier batch turn dependency,
      (chainPlan.run {} chainWorld).outcome = .ok report ∧
      (chainPlan.run {} chainWorld).batches = earlier ++ [batch] ∧
      chainWorld.ended batch.turns = [turn] ∧ turn.step.id = "index" ∧
      (chainPlan.during chainWorld earlier batch []).step? "unpack" = some dependency ∧
      (dependency.status = .succeeded ∨
        dependency.optional = true ∧
          (dependency.status = .failed ∨ dependency.status = .skipped)) ∧
      ∃ first second : Fin report.executedSteps.length,
        report.executedSteps[first].stepId = "download" ∧
          report.executedSteps[second].stepId = "index" ∧ first < second := by
  have evaluated : ((chainPlan.run {} chainWorld).outcome.toOption.map fun report =>
      report.executedSteps.map (·.stepId)) = some ["download", "unpack", "index"] := by
    decide +kernel
  have lastBatch : ((chainPlan.run {} chainWorld).batches.drop 2).map
      (fun batch => batch.turns.map (·.step.id)) = [["index"]] := by
    decide +kernel
  have sound := dependencies_come_first {} chainWorld chainPlan
  obtain ⟨batch, dropped, turns⟩ := List.map_eq_singleton_iff.1 lastBatch
  obtain ⟨turn, single, named⟩ := List.map_eq_singleton_iff.1 turns
  have ended : chainWorld.ended batch.turns = [turn] := by
    rw [single]
    rfl
  have split : (chainPlan.run {} chainWorld).batches =
      (chainPlan.run {} chainWorld).batches.take 2 ++ [batch] := by
    rw [← dropped, List.take_append_drop]
  have needs : chainPlan.graph.Leads "download" "unpack" := by
    unfold Graph.Leads
    decide
  have needsToo : chainPlan.graph.Leads "unpack" "index" := by
    unfold Graph.Leads
    decide
  obtain ⟨dependency, found, done⟩ :=
    (sound.1 _ batch [] [] [turn] split ended turn List.mem_cons_self).2 "unpack" (named ▸ needsToo)
  cases outcome : (chainPlan.run {} chainWorld).outcome with
  | error error =>
      rw [outcome] at evaluated
      contradiction
  | ok report =>
      rw [outcome] at evaluated
      have ids : report.executedSteps.map (·.stepId) = ["download", "unpack", "index"] :=
        Option.some.inj evaluated
      have length : report.executedSteps.length = 3 := by
        simpa using congrArg List.length ids
      have stepId : ∀ position : Fin report.executedSteps.length,
          report.executedSteps[position].stepId =
            ["download", "unpack", "index"].get (position.cast length) := by
        intro position
        simp [← ids]
      have isRecorded : ∀ id ∈ ["download", "unpack", "index"],
          id ∈ report.executedSteps.map (·.stepId) := by
        rw [ids]
        exact fun id member => member
      have path : TransGen (chainPlan.LeadsRecorded report)
          report.executedSteps[(⟨0, by omega⟩ : Fin report.executedSteps.length)].stepId
          report.executedSteps[(⟨2, by omega⟩ : Fin report.executedSteps.length)].stepId := by
        rw [stepId, stepId]
        exact .tail (.single ⟨needs, isRecorded _ (by simp), isRecorded _ (by simp)⟩)
          ⟨needsToo, isRecorded _ (by simp), isRecorded _ (by simp)⟩
      exact ⟨report, _, batch, turn, dependency, rfl, split, ended, named, found, done, _, _,
        stepId _, stepId _, sound.2 report outcome _ _ path⟩

end PlanRunner
