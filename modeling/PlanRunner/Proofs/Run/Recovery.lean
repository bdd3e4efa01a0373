import PlanRunner.Proofs.Run.Confluence
import PlanRunner.Proofs.Run.Permanence

/-!
# Runs whose resolver breaks down

A resolver that breaks down for some steps of a batch ends the run, but only when all turns of the
batch have ended. The outcomes of the other steps are written back, and all that is left of the
breakdown are the steps that are still running. The next run sets them back to pending. It is then
on the way to the end that a single healthy run would have come to, although the steps that are left
may now run in other batches.
-/

namespace PlanRunner

open Progress

variable {settings : Settings} {environment : Environment} {plan : Plan} {last : Progress}
  {step : Step} {turn : Turn} {input message : String} {earlier later : List Batch} {batch : Batch}

/-! ## The broken batch -/

/-- A batch with a turn that was broken off is the last one of its run. -/
theorem Plan.exists_of_broken
    (split : (plan.run settings environment).batches = earlier ++ batch :: later)
    (member : turn ∈ batch.turns) (broken : ¬turn.Settled) :
    plan.Valid ∧ later = [] ∧ ∃ last error, Reaches settings environment (start plan) last ∧
      last.batches = earlier ∧ last.nextBatch settings environment = batch ∧
      (∃ turn ∈ batch.turns, turn.error? = some error) ∧
      plan.run settings environment =
        Run.finish settings environment plan (last.next settings environment) (.broken error) := by
  obtain ⟨valid, -⟩ := Plan.exists_of_batches_run split
  obtain ⟨last, final, stop, reaches, stops, ran⟩ := valid.run_stops settings environment
  have notBefore : ∀ rest, last.batches ≠ earlier ++ batch :: rest := by
    intro rest before
    refine broken ((valid.coherent_start.of_reaches reaches).settled turn ?_)
    rw [taken, before, List.flatMap_append, List.flatMap_cons]
    exact List.mem_append_right _ (List.mem_append_left _ member)
  rw [ran, Run.batches_finish] at split
  cases stops with
  | drained drained => exact absurd split (notBefore later)
  | cancelled ready cancelled => exact absurd split (notBefore later)
  | @broken error ready free broke =>
      rcases split_batches_next split with ⟨rfl, rfl⟩ | ⟨rest, before⟩
      · rw [batches_next, List.append_cancel_left_eq, List.cons.injEq] at split
        exact ⟨valid, split.2.symm, last, error, reaches, rfl, rfl, broke, ran⟩
      · exact absurd before (notBefore rest)

namespace Stage

/-- In a batch of a run the resolver breaks down in a turn, with a message. -/
def Breaks (stage : Stage) (earlier : List Batch) (batch : Batch) (turn : Turn)
    (message : String) : Prop :=
  turn ∈ batch.turns ∧
    (stage.environment.resolve turn.step
      (stage.plan.during stage.environment earlier batch []).steps).value = .error message

/-- What a run leaves when the resolver breaks down in some turns of a batch. -/
structure BreaksOff (stage : Stage) (earlier : List Batch) (batch : Batch) (later : List Batch) :
    Prop where
  last : later = []
  /-- The run hands back the error of one of the steps. -/
  error : ∃ turn message, stage.Breaks earlier batch turn message ∧
    stage.run.outcome = .error (.resolver turn.step.id message)
  /-- The steps of the other turns are as their turns have left them. -/
  applied : ∀ turn ∈ batch.turns, (∀ message, ¬stage.Breaks earlier batch turn message) →
    turn.Settled ∧ turn.marked ∈ stage.run.plan.steps
  /-- The steps that are running are those of the broken turns, as they were in their turns. -/
  running : ∀ step, step ∈ stage.run.plan.steps ∧ step.status = .running ↔
    ∃ turn message, stage.Breaks earlier batch turn message ∧ turn.step = step
  /-- The steps that took no part in the batch are as they were before it. -/
  outside : ∀ step ∈ (stage.plan.started.replay stage.environment earlier).steps,
    step.id ∉ batch.turns.map (·.step.id) → step ∈ stage.run.plan.steps
  design : stage.run.plan.steps.map Step.design = stage.plan.steps.map Step.design
  /-- Nothing else is different about the plan, and the replan count is not. -/
  frame : stage.run.plan =
    { stage.plan with steps := stage.run.plan.steps, status := .running }

/-- Where the run had come before a batch in which the resolver broke down. -/
structure StoppedAt (stage : Stage) (earlier : List Batch) (batch : Batch) (later : List Batch)
    (last : Progress) : Prop where
  valid : stage.plan.Valid
  reaches : Reaches stage.settings stage.environment (start stage.plan) last
  batches : last.batches = earlier
  nextBatch : last.nextBatch stage.settings stage.environment = batch
  ends : later = []
  plan : stage.run.plan = (last.next stage.settings stage.environment).plan
  error : ∃ turn ∈ batch.turns, ∃ error, turn.error? = some error ∧
    stage.run.outcome = .error error

variable {stage : Stage}

/-- A turn of the next batch is settled, or the resolver breaks down in it. -/
theorem settled_or_breaks (valid : stage.plan.Valid)
    (reaches : Reaches stage.settings stage.environment (start stage.plan) last)
    (member : turn ∈ (last.nextBatch stage.settings stage.environment).turns) :
    (turn.Settled ∧ ∀ message, ¬stage.Breaks last.batches
      (last.nextBatch stage.settings stage.environment) turn message) ∨
    ∃ message, stage.Breaks last.batches
        (last.nextBatch stage.settings stage.environment) turn message ∧
      turn.error? = some (.resolver turn.step.id message) := by
  unfold Breaks
  rw [Plan.during_nextBatch valid reaches]
  have inBatch := member
  obtain ⟨step, -, -, rfl⟩ :=
    (mem_nextBatch_iff (valid.coherent_start.of_reaches reaches).distinct).1 member
  rw [Turn.step_take]
  cases resolved : (stage.environment.resolve { step with status := .running }
      (last.launched stage.settings).steps).value with
  | error message => exact .inr ⟨message, ⟨inBatch, rfl⟩, Turn.error?_take resolved⟩
  | ok resolution =>
      refine .inl ⟨Turn.settled_take resolved, ?_⟩
      rintro message ⟨-, breaks⟩
      contradiction

theorem exists_stoppedAt (split : stage.run.batches = earlier ++ batch :: later)
    (breaks : stage.Breaks earlier batch turn message) :
    ∃ last, stage.StoppedAt earlier batch later last := by
  have broken : ¬turn.Settled := by
    obtain ⟨valid, middle, reaches, rfl, rfl⟩ := Plan.exists_of_batches_run split
    rcases settled_or_breaks valid reaches breaks.1 with ⟨-, unbroken⟩ | ⟨_, -, broke⟩
    · exact absurd breaks (unbroken message)
    · exact Turn.not_settled_of_error broke
  obtain ⟨valid, ends, last, error, reaches, batches, nextBatch, ⟨turn, member, broke⟩, ran⟩ :=
    Plan.exists_of_broken split breaks.1 broken
  refine ⟨last, valid, reaches, batches, nextBatch, ends, ?_, turn, member, error, broke, ?_⟩
  · exact congrArg Run.plan ran
  · exact congrArg Run.outcome ran

namespace StoppedAt

theorem coherent (stopped : stage.StoppedAt earlier batch later last) :
    Coherent (start stage.plan) last :=
  stopped.valid.coherent_start.of_reaches stopped.reaches

theorem settled_or_breaks (stopped : stage.StoppedAt earlier batch later last)
    (member : turn ∈ batch.turns) :
    (turn.Settled ∧ ∀ message, ¬stage.Breaks earlier batch turn message) ∨
    ∃ message, stage.Breaks earlier batch turn message ∧
      turn.error? = some (.resolver turn.step.id message) := by
  obtain ⟨valid, reaches, rfl, rfl, -, -, -⟩ := stopped
  exact Stage.settled_or_breaks valid reaches member

/-- A step is running at the end if it took part in the batch and its turn was broken off. -/
theorem exists_of_running (stopped : stage.StoppedAt earlier batch later last)
    (member : step ∈ stage.run.plan.steps) (running : step.status = .running) :
    ∃ old ∈ last.plan.steps, Step.isReady last.plan.steps old = true ∧
      step = { old with status := .running } ∧
      ∃ turn ∈ batch.turns, ¬turn.Settled ∧ turn.step = step := by
  have distinct := stopped.coherent.distinct
  rw [stopped.plan] at member
  obtain ⟨old, oldMember, rfl⟩ := (mem_next_iff distinct).1 member
  unfold stepAfter at running ⊢
  split at running
  · rename_i chosen
    have turnMember := take_mem_nextBatch stage.environment distinct oldMember chosen
    have broken : ¬(Turn.take stage.settings stage.environment.toGateways
        (last.launched stage.settings).steps { old with status := .running }).Settled := by
      intro settled
      rcases Turn.status_marked settled with succeeded | failed
      · simp [succeeded] at running
      · simp [failed] at running
    have ready := isReady_of_chosen distinct oldMember chosen
    rw [if_pos chosen, Turn.marked_of_not_settled broken, Turn.step_take]
    exact ⟨old, oldMember, ready, rfl, _, stopped.nextBatch ▸ turnMember, broken, Turn.step_take⟩
  · exact absurd running (stopped.coherent.idle old oldMember)

theorem breaksOff (stopped : stage.StoppedAt earlier batch later last) :
    stage.BreaksOff earlier batch later := by
  have coherent := stopped.coherent
  have distinct := coherent.distinct
  refine ⟨stopped.ends, ?error, ?applied, ?running, ?outside, ?design, ?frame⟩
  case error =>
    obtain ⟨turn, member, error, broke, outcome⟩ := stopped.error
    rcases stopped.settled_or_breaks member with ⟨settled, -⟩ | ⟨message, breaks, named⟩
    · rw [settled] at broke
      contradiction
    · obtain rfl := Option.some.inj (broke.symm.trans named)
      exact ⟨turn, message, breaks, outcome⟩
  case applied =>
    intro turn member unbroken
    rcases stopped.settled_or_breaks member with ⟨settled, -⟩ | ⟨message, breaks, -⟩
    · refine ⟨settled, ?_⟩
      rw [stopped.plan]
      exact marked_mem_next distinct (stopped.nextBatch ▸ member)
    · exact absurd breaks (unbroken message)
  case running =>
    intro step
    constructor
    · rintro ⟨member, running⟩
      obtain ⟨-, -, -, -, turn, inBatch, broken, same⟩ := stopped.exists_of_running member running
      rcases stopped.settled_or_breaks inBatch with ⟨settled, -⟩ | ⟨message, breaks, -⟩
      · contradiction
      · exact ⟨turn, message, breaks, same⟩
    · rintro ⟨turn, message, breaks, rfl⟩
      have inBatch := stopped.nextBatch ▸ breaks.1
      rcases stopped.settled_or_breaks breaks.1 with ⟨-, unbroken⟩ | ⟨_, -, broke⟩
      · exact absurd breaks (unbroken message)
      · have marked := marked_mem_next distinct inBatch
        rw [Turn.marked_of_not_settled (Turn.not_settled_of_error broke)] at marked
        obtain ⟨step, -, -, -, started⟩ := coherent.of_mem_nextBatch inBatch
        exact ⟨stopped.plan ▸ marked, congrArg Step.status started⟩
  case outside =>
    intro step member absent
    rw [← stopped.batches, ← plan_eq_replay stopped.valid stopped.reaches] at member
    rw [← stopped.nextBatch, ids_nextBatch stage.environment distinct] at absent
    rw [stopped.plan]
    exact (mem_next_iff distinct).2 ⟨step, member, if_neg absent⟩
  case design => exact (stage.plan.persists_run _ _).design
  case frame =>
    rw [stopped.plan, plan_next distinct, coherent.frame]
    rfl

/-- What was settled before the batch is still there when the next run starts. -/
theorem mem_start_of_begun (stopped : stage.StoppedAt earlier batch later last)
    (member : step ∈ last.plan.steps) (begun : step.status ≠ .pending) :
    step ∈ (start stage.run.plan).plan.steps := by
  have coherent := stopped.coherent
  refine List.mem_map.2 ⟨step, ?_, Step.rested_of_not_running (coherent.idle step member)⟩
  rw [stopped.plan]
  exact mem_next_of_not_pending coherent.distinct member begun

/-- The next run, if it is not cancelled, attempts every step again that was left running. -/
theorem attempted_of_running (stopped : stage.StoppedAt earlier batch later last)
    {report : Report} {final : Progress}
    (concludes : stage.run.plan.Concludes settings environment report final)
    (uncancelled : report.cancelled = false) (member : step ∈ stage.run.plan.steps)
    (running : step.status = .running) :
    step.id ∈ (stage.run.plan.run settings environment).attempted := by
  obtain ⟨old, oldMember, ready, rfl, -⟩ := stopped.exists_of_running member running
  have pending := (Step.isReady_iff.1 ready).1
  have inStart : old ∈ (start stage.run.plan).plan.steps :=
    List.mem_map.2 ⟨_, member, Step.rested_running_of_pending pending⟩
  change old.id ∈ _
  rw [Run.attempted, Run.turns, concludes.batches]
  -- What the step depends on was done before its turn was broken off, and is still done.
  refine concludes.coherent.taken_of_done concludes.valid.coherent_start.distinct
    (concludes.drained uncancelled) inStart pending fun id depends => ?_
  obtain ⟨dependency, dependencyMember, named, satisfies⟩ :=
    stopped.coherent.dependency_of_ready ready depends
  have begun := Step.not_pending_of_satisfiesDependents satisfies
  have kept := concludes.valid.coherent_start.mem_of_reaches concludes.reaches
    (stopped.mem_start_of_begun dependencyMember begun) begun
  exact ⟨dependency, kept, named, satisfies⟩

/-- The next run starts on the way to the end of a healthy run. -/
theorem midway (stopped : stage.StoppedAt earlier batch later last) {other : Settings}
    {world : Environment} {whole : Progress}
    (finished : Finished other world stage.plan stage.plan input whole)
    (templates : stage.environment.UsesTemplatesOrBreaks input)
    (answers : SameAnswers stage.settings other stage.environment.toGateways world.toGateways) :
    stage.plan.Midway (start stage.run.plan).plan.steps whole.plan.steps := by
  have midway := finished.midway_of_reaches templates answers stopped.valid.coherent_start
    finished.midway_start stopped.reaches
  rw [steps_start, stopped.plan]
  exact finished.midway_rested_next templates answers midway

end StoppedAt

end Stage

/-! ## The next run -/

/-- A list of steps is another one if their designs are the same and the steps are among them. -/
theorem Step.eq_of_subset {steps others : List Step} (distinct : Step.Distinct others)
    (design : steps.map Step.design = others.map Step.design) (part : steps ⊆ others) :
    steps = others := by
  have lengths := congrArg List.length design
  rw [List.length_map, List.length_map] at lengths
  refine List.ext_getElem lengths fun position inFirst inSecond => ?_
  have inDesigns : position < (steps.map Step.design).length := by simpa using inFirst
  have same := List.getElem_of_eq design inDesigns
  rw [List.getElem_map, List.getElem_map] at same
  exact distinct.eq_of_id_eq (part (List.getElem_mem inFirst)) (List.getElem_mem inSecond)
    (Step.id_eq_of_design same)

/-- What a run makes of the plan that a broken run has left. -/
structure Stage.Recovers (first second : Stage) (input : String) : Prop where
  completes : ∃ report, second.run.outcome = .ok report
  /-- Nothing is attempted again that was over. -/
  once : ∀ step ∈ first.run.plan.steps, step.status.isTerminal = true →
    step.id ∉ second.run.attempted
  /-- All that was left running is attempted again. -/
  again : ∀ step ∈ first.run.plan.steps, step.status = .running →
    step.id ∈ second.run.attempted
  /-- The steps end as in a single run in which no resolver breaks down. -/
  healed : ∀ healthy : Stage, healthy.plan = first.plan → first.plan.NamesDependencies →
    first.environment.UsesTemplatesOrBreaks input → healthy.environment.UsesTemplates input →
    SameAnswers first.settings healthy.settings first.environment.toGateways
      healthy.environment.toGateways →
    SameAnswers second.settings healthy.settings second.environment.toGateways
      healthy.environment.toGateways →
    healthy.plan.Uncancelled healthy.settings healthy.environment →
      second.run.plan.steps = healthy.run.plan.steps

theorem Stage.StoppedAt.recovers {first second : Stage}
    (stopped : first.StoppedAt earlier batch later last) (next : second.plan = first.run.plan)
    (templates : second.environment.UsesTemplates input)
    (finishes : second.plan.Uncancelled second.settings second.environment) :
    first.Recovers second input := by
  obtain ⟨settings, environment, plan⟩ := second
  obtain rfl : plan = first.run.plan := next
  have valid : first.run.plan.Valid :=
    stopped.valid.of_design (first.plan.persists_run _ _).design.symm
  obtain ⟨report, final, outcome, concludes⟩ := valid.concludes settings templates
  have uncancelled := finishes report outcome
  constructor
  case completes => exact ⟨report, outcome⟩
  case once => exact fun step member isOver => Plan.not_attempted_of_over member isOver
  case again =>
    exact fun step member running =>
      stopped.attempted_of_running concludes uncancelled member running
  case healed =>
    rintro ⟨other, world, plan⟩ rfl named orBreaks worldTemplates answers answersLater undisturbed
    obtain ⟨full, whole, fullOutcome, wholeConcludes⟩ :=
      stopped.valid.concludes other worldTemplates
    have fullUncancelled := undisturbed full fullOutcome
    have finished : Finished other world first.plan first.plan input whole :=
      { valid := stopped.valid
        named
        permuted := .refl _
        otherTemplates := worldTemplates
        reaches := wholeConcludes.reaches
        drained := wholeConcludes.drained fullUncancelled }
    have midway := finished.midway_of_reaches templates.orBreaks answersLater
      concludes.valid.coherent_start (stopped.midway finished orBreaks answers) concludes.reaches
    have drained := concludes.drained uncancelled
    have same : final.plan.steps = whole.plan.steps := by
      refine Step.eq_of_subset wholeConcludes.coherent.distinct ?_ fun step member =>
        finished.mem_last_of_drained midway drained member
      rw [midway.design, wholeConcludes.coherent.design, design_start]
    exact (concludes.steps_of_drained uncancelled).trans
      (same ▸ (wholeConcludes.steps_of_drained fullUncancelled).symm)

/--
When the resolver breaks down for some steps of a batch, the run ends with an error of one of them.
Still the outcomes of all other steps of the batch are written back. Only the steps that the
resolver failed for are left running, and nothing else has changed. The next run attempts them
again, and none that was over. If steps refer only to steps that they depend on, and get the same
answers, it leaves the steps as a single run does in which no resolver breaks down.
-/
theorem recovers_from_breakdown {first : Stage}
    (split : first.run.batches = earlier ++ batch :: later)
    (breaks : ∃ turn message, first.Breaks earlier batch turn message) :
    first.BreaksOff earlier batch later ∧
    ∀ (second : Stage) (input : String), second.plan = first.run.plan →
      second.environment.UsesTemplates input →
      second.plan.Uncancelled second.settings second.environment →
        first.Recovers second input := by
  obtain ⟨turn, message, breaks⟩ := breaks
  obtain ⟨last, stopped⟩ := Stage.exists_stoppedAt split breaks
  exact ⟨stopped.breaksOff, fun second input next templates finishes =>
    stopped.recovers next templates finishes⟩

/-- In a rehearsal nothing but a cue keeps arguments from being resolved by the templates. -/
theorem Rehearsal.usesTemplatesOrBreaks (rehearsal : Rehearsal) (runId : String)
    (startedAt : Timestamp) :
    (rehearsal.environment runId startedAt).UsesTemplatesOrBreaks rehearsal.context.input := by
  intro step steps
  change (rehearsal.resolve step steps).value = _ ∨ ∃ message,
    (rehearsal.resolve step steps).value = .error message
  simp only [resolve]
  split
  · cases (ResolverCue.ofArguments step.arguments).causes with
    | nil => exact .inl rfl
    | cons cause causes => exact .inr ⟨_, rfl⟩
  · exact .inl rfl

/-- A text and a picture that are printed together. -/
def bulletinPlan : Plan :=
  { Plan.blank with
    id := "bulletin"
    steps :=
      [Step.new "text" "editor" (.string "on \x7b\x7binput\x7d\x7d"),
        Step.new "picture" "camera"
          (.object [("resolver_error", .array [.string "no light"])]),
        (Step.new "page" "printer" (.string "\x7b\x7btext\x7d\x7d")).dependingOn
          ["text", "picture"]] }

/-- A run of the plan, in which the arguments of the picture may break the resolver down. -/
def bulletinStage (cuesResolver : Bool) (plan : Plan) : Stage :=
  ⟨{}, Rehearsal.environment
    { context := { input := "bees" }, scripts := [], cancelAt := none, cuesResolver }
    "run" default, plan⟩

/-- The plan that is left when no picture could be asked for. -/
def bulletinRemainder : Plan :=
  (bulletinStage true bulletinPlan).run.plan

/-- The text is kept, the picture is asked for again, and the page is as if nothing had failed. -/
theorem recovers_from_breakdown_bulletin :
    ∃ batch picture,
      (bulletinStage true bulletinPlan).run.batches = [batch] ∧
      (bulletinStage true bulletinPlan).Breaks [] batch picture "no light" ∧
      (bulletinStage true bulletinPlan).BreaksOff [] batch [] ∧
      bulletinRemainder.steps.map (·.status) = [.succeeded, .running, .pending] ∧
      (bulletinStage true bulletinPlan).Recovers (bulletinStage false bulletinRemainder) "bees" ∧
      (bulletinStage false bulletinRemainder).run.attempted = ["picture", "page"] ∧
      (bulletinStage false bulletinRemainder).run.plan.steps =
        (bulletinStage false bulletinPlan).run.plan.steps := by
  have seen : (bulletinStage true bulletinPlan).run.batches.map (fun batch =>
      batch.turns.map (·.step.arguments)) =
        [[.string "on \x7b\x7binput\x7d\x7d",
          .object [("resolver_error", .array [.string "no light"])]]] := by
    decide +kernel
  obtain ⟨batch, batches, seenTurns⟩ := List.map_eq_singleton_iff.1 seen
  obtain ⟨text, rest, turns, -, seenRest⟩ := List.map_eq_cons_iff.1 seenTurns
  obtain ⟨picture, rfl, arguments⟩ := List.map_eq_singleton_iff.1 seenRest
  have member : picture ∈ batch.turns := turns ▸ List.mem_cons_of_mem _ List.mem_cons_self
  have breaks : (bulletinStage true bulletinPlan).Breaks [] batch picture "no light" := by
    refine ⟨member, ?_⟩
    change (Rehearsal.resolve _ picture.step _).value = _
    rw [Rehearsal.resolve, arguments]
    rfl
  obtain ⟨breaksOff, next⟩ := recovers_from_breakdown batches ⟨picture, "no light", breaks⟩
  have recovers := next (bulletinStage false bulletinRemainder) "bees" rfl (fun _ _ => rfl)
    (Plan.uncancelled_of_free fun _ => rfl)
  have named : bulletinPlan.NamesDependencies := by
    unfold Plan.NamesDependencies
    decide +kernel
  have same := recovers.healed (bulletinStage false bulletinPlan) rfl named
    (Rehearsal.usesTemplatesOrBreaks _ _ _) (fun _ _ => rfl) ⟨rfl, fun _ _ => rfl⟩
    ⟨rfl, fun _ _ => rfl⟩ (Plan.uncancelled_of_free fun _ => rfl)
  exact ⟨batch, picture, batches, breaks, breaksOff, by decide +kernel, recovers,
    by decide +kernel, same⟩

end PlanRunner
