import PlanRunner.Proofs.Run.Records
import PlanRunner.Proofs.Template.Locality
import PlanRunner.Run.Rehearsal

/-!
# Runs that are cancelled and resumed

A run that is cancelled skips at once the steps that can never run, before all others have had their
turns. Nothing is lost by that: a batch makes no step able to run that was not able to run before,
and no step that may still run depends on one that was skipped early, so that an optional one
releases nobody. A second run therefore goes on batch by batch as a run that was never cancelled
would have gone on.
-/

namespace PlanRunner

open Relation Progress

variable {settings : Settings} {environment other : Environment} {plan : Plan} {step : Step}
  {input id : String} {shelved : List String} {earlier : List Batch}
  {first before after resumed whole last : Progress}

/-! ## What can never run -/

namespace Progress.Coherent

/-- A batch takes only steps that are able to run. -/
theorem settles_of_chosen (coherent : Coherent first before)
    (chosen : id ∈ before.chosen settings) : Step.Settles before.plan.steps id := by
  obtain ⟨step, member, rfl, ready⟩ := exists_of_mem_chosen chosen
  exact Step.settles_of_isReady coherent.distinct member ready

/-- A batch makes no step able to run that was not able to run before. -/
theorem settles_of_next (coherent : Coherent first before)
    (advances : Advances settings environment before after)
    (settles : Step.Settles after.plan.steps id) : Step.Settles before.plan.steps id := by
  -- A step took part in the batch, and was ready then, or it is as it was.
  refine settles.carry fun {id step} found => ?_
  obtain ⟨member, rfl⟩ := Step.mem_of_find?_eq_some found
  rw [advances.next] at member
  obtain ⟨old, oldMember, rfl⟩ := (mem_next_iff coherent.distinct).1 member
  rw [id_stepAfter, stepAfter]
  split
  · rename_i chosen
    exact .inr (coherent.settles_of_chosen chosen)
  · exact .inl ((Step.find?_eq_some_iff coherent.distinct).2 ⟨oldMember, rfl⟩)

end Progress.Coherent

/-! ## Steps that were skipped early -/

/-- A step, which is skipped if it is one of the shelved ones. -/
def Step.shelve (shelved : List String) (step : Step) : Step :=
  if step.id ∈ shelved then { step with status := .skipped } else step

@[simp] theorem Step.id_shelve (shelved : List String) (step : Step) :
    (step.shelve shelved).id = step.id := by
  unfold shelve
  split <;> rfl

theorem Step.shelve_of_mem (member : step.id ∈ shelved) :
    step.shelve shelved = { step with status := .skipped } :=
  if_pos member

theorem Step.shelve_of_not_mem (absent : step.id ∉ shelved) : step.shelve shelved = step :=
  if_neg absent

theorem Step.map_shelve_nil (steps : List Step) : steps.map (shelve []) = steps :=
  List.map_id'' (fun _ => shelve_of_not_mem List.not_mem_nil) steps

theorem Step.find?_shelve (steps : List Step) (absent : id ∉ shelved) :
    find? (steps.map (shelve shelved)) id = find? steps id := by
  rw [find?_map (id_shelve shelved)]
  cases found : find? steps id with
  | none => rfl
  | some step =>
      obtain ⟨-, rfl⟩ := mem_of_find?_eq_some found
      rw [Option.map_some, shelve_of_not_mem absent]

/--
A resumed run has come as far as one that was never cancelled. The steps that were skipped early are
pending in the latter, where they can never run, and no other pending step depends on them.
-/
structure Follows (shelved : List String) (earlier : List Batch) (resumed whole : Progress) :
    Prop where
  steps : resumed.plan.steps = whole.plan.steps.map (Step.shelve shelved)
  pending : ∀ step ∈ whole.plan.steps, step.id ∈ shelved → step.status = .pending
  stuck : ∀ id ∈ shelved, ¬Step.Settles whole.plan.steps id
  apart : ∀ step ∈ whole.plan.steps, step.status = .pending → step.id ∉ shelved →
    ∀ id ∈ step.dependencies, id ∉ shelved
  /-- Apart from the batches before the run was resumed the batches are the same. -/
  batches : ∃ later, whole.batches = earlier ++ later ∧
    List.Forall₂ Batch.Alike resumed.batches later

namespace Follows

/-- The same steps are ready. -/
theorem ready (follows : Follows shelved earlier resumed whole)
    (coherent : Coherent first whole) :
    Step.ready resumed.plan.steps = Step.ready whole.plan.steps := by
  have readiness : ∀ step ∈ whole.plan.steps,
      Step.isReady (whole.plan.steps.map (Step.shelve shelved)) (step.shelve shelved) =
        Step.isReady whole.plan.steps step := by
    intro step member
    by_cases isShelved : step.id ∈ shelved
    · have stuck := follows.stuck step.id isShelved
      have unready : ¬Step.isReady whole.plan.steps step = true :=
        fun ready => stuck (Step.settles_of_isReady coherent.distinct member ready)
      rw [Step.shelve_of_mem isShelved, Bool.eq_false_iff.2 unready]
      simp [Step.isReady]
    · rw [Step.shelve_of_not_mem isShelved, Bool.eq_iff_iff, Step.isReady_iff, Step.isReady_iff]
      refine and_congr_right fun pending => forall₂_congr fun id depends => ?_
      rw [Step.find?_shelve _ (follows.apart step member pending isShelved id depends)]
  rw [follows.steps, Step.ready, Step.ready, List.filter_map, List.map_map]
  have ids : (fun step => step.id) ∘ Step.shelve shelved = fun step => step.id :=
    funext (Step.id_shelve shelved)
  rw [ids]
  refine congrArg _ (List.filter_congr fun step member => ?_)
  exact readiness step member

theorem chosen (follows : Follows shelved earlier resumed whole)
    (coherent : Coherent first whole) : resumed.chosen settings = whole.chosen settings := by
  rw [Progress.chosen, Progress.chosen, follows.ready coherent]

/-- No batch takes a step that was skipped early. -/
theorem not_shelved_of_chosen (follows : Follows shelved earlier resumed whole)
    (coherent : Coherent first whole) (chosen : id ∈ whole.chosen settings) : id ∉ shelved :=
  fun isShelved => follows.stuck id isShelved (coherent.settles_of_chosen chosen)

theorem launched (follows : Follows shelved earlier resumed whole)
    (coherent : Coherent first whole) :
    (resumed.launched settings).steps =
      (whole.launched settings).steps.map (Step.shelve shelved) := by
  simp only [Progress.launched, Plan.withStatus, follows.chosen coherent, follows.steps,
    List.map_map]
  refine List.map_congr_left fun step _ => ?_
  by_cases chosen : step.id ∈ whole.chosen settings
  · have absent := follows.not_shelved_of_chosen coherent chosen
    simp [Step.shelve, chosen, absent]
  · simp only [Function.comp_apply, Step.id_shelve, if_neg chosen]

/-- A step that was skipped early is pending while the batch is under way, so it has no result. -/
theorem root? (follows : Follows shelved earlier resumed whole) (coherent : Coherent first whole) :
    Reference.root? (resumed.launched settings).steps input id =
      Reference.root? (whole.launched settings).steps input id := by
  rw [follows.launched coherent]
  unfold Reference.root?
  simp only [List.find?_map, Function.comp_def, Step.id_shelve]
  cases found : (whole.launched settings).steps.find? (·.id == id) with
  | none => rfl
  | some step =>
      by_cases isShelved : step.id ∈ shelved
      · obtain ⟨old, oldMember, rfl⟩ := List.mem_map.1 (List.mem_of_find?_eq_some found)
        change (old.started (whole.chosen settings)).id ∈ shelved at isShelved
        rw [Step.id_started] at isShelved
        have absent : old.id ∉ whole.chosen settings :=
          fun chosen => follows.not_shelved_of_chosen coherent chosen isShelved
        have pending := follows.pending old oldMember isShelved
        simp [absent, pending, Step.shelve_of_mem isShelved]
      · simp [Step.shelve_of_not_mem isShelved]

section Together

variable (same : SameAnswers settings settings environment.toGateways other.toGateways)
  (templates : environment.UsesTemplates input) (otherTemplates : other.UsesTemplates input)

include same templates otherTemplates

/-- A step has the same turn in both runs, at another time perhaps. -/
theorem take_untimed (follows : Follows shelved earlier resumed whole)
    (coherent : Coherent first whole) (step : Step) :
    (Turn.take settings environment.toGateways (resumed.launched settings).steps step).untimed =
      (Turn.take settings other.toGateways (whole.launched settings).steps step).untimed := by
  refine Turn.take_untimed same ?_
  rw [templates, otherTemplates]
  exact congrArg Except.ok (Template.resolve_congr fun name _ => follows.root? coherent)

/-- The next batches have the same turns, at other times perhaps. -/
theorem alike (follows : Follows shelved earlier resumed whole)
    (coherent : Coherent first whole) :
    (resumed.nextBatch settings environment).Alike (whole.nextBatch settings other) := by
  have found : ∀ id ∈ whole.chosen settings,
      Step.find? (resumed.launched settings).steps id =
        Step.find? (whole.launched settings).steps id := by
    intro id chosen
    rw [follows.launched coherent]
    exact Step.find?_shelve _ (follows.not_shelved_of_chosen coherent chosen)
  simp only [Batch.Alike, nextBatch, turns, follows.chosen coherent, List.map_map,
    List.filterMap_congr found]
  refine List.map_congr_left fun step _ => ?_
  exact follows.take_untimed same templates otherTemplates coherent step

/-- A batch leaves both runs with the same steps again. -/
theorem steps_next (follows : Follows shelved earlier resumed whole)
    (coherent : Coherent first whole) (distinct : Step.Distinct resumed.plan.steps) :
    (resumed.next settings environment).plan.steps =
      (whole.next settings other).plan.steps.map (Step.shelve shelved) := by
  rw [plan_next distinct, plan_next coherent.distinct]
  simp only [follows.steps, List.map_map]
  refine List.map_congr_left fun step _ => ?_
  simp only [Function.comp_apply]
  by_cases chosen : step.id ∈ whole.chosen settings
  · have absent := follows.not_shelved_of_chosen coherent chosen
    have turn := follows.take_untimed same templates otherTemplates coherent
      { step with status := .running }
    have unshelved : (stepAfter settings other whole step).id ∉ shelved := by
      rwa [id_stepAfter]
    rw [Step.shelve_of_not_mem absent, Step.shelve_of_not_mem unshelved, stepAfter, stepAfter,
      follows.chosen coherent, if_pos chosen, if_pos chosen, Turn.marked_eq_of_untimed turn]
  · rw [stepAfter, stepAfter, follows.chosen coherent, Step.id_shelve, if_neg chosen,
      if_neg chosen]

/-- Both runs take the next batch together. -/
theorem next (follows : Follows shelved earlier resumed whole) (coherent : Coherent first whole)
    (distinct : Step.Distinct resumed.plan.steps)
    (advances : Advances settings other whole (whole.next settings other)) :
    Follows shelved earlier (resumed.next settings environment) (whole.next settings other) := by
  -- Steps that are pending or shelved after the batch took no part in it.
  have unchanged : ∀ step ∈ (whole.next settings other).plan.steps,
      step.status = .pending ∨ step.id ∈ shelved → step ∈ whole.plan.steps := by
    intro step member undecided
    obtain ⟨old, oldMember, rfl⟩ := (mem_next_iff coherent.distinct).1 member
    by_cases chosen : old.id ∈ whole.chosen settings
    · have turnMember := take_mem_nextBatch other coherent.distinct oldMember chosen
      have begun := not_pending_marked (advances.settled _ turnMember)
      rcases undecided with pending | isShelved
      · rw [stepAfter, if_pos chosen] at pending
        contradiction
      · rw [id_stepAfter] at isShelved
        exact absurd isShelved (follows.not_shelved_of_chosen coherent chosen)
    · rwa [stepAfter, if_neg chosen]
  refine ⟨follows.steps_next same templates otherTemplates coherent distinct, ?_, ?_, ?_, ?_⟩
  · intro step member isShelved
    exact follows.pending step (unchanged step member (.inr isShelved)) isShelved
  · intro id isShelved settles
    exact follows.stuck id isShelved (coherent.settles_of_next advances settles)
  · intro step member pending
    exact follows.apart step (unchanged step member (.inl pending)) pending
  · obtain ⟨later, batches, alike⟩ := follows.batches
    refine ⟨later ++ [whole.nextBatch settings other], by simp [batches], ?_⟩
    rw [batches_next]
    exact List.rel_append alike
      (.cons (follows.alike same templates otherTemplates coherent) .nil)

/-- The resumed run goes on as long as the other one does. -/
theorem of_reaches (follows : Follows shelved earlier before whole)
    (coherent : Coherent first whole) (coherentBefore : Coherent resumed before)
    (reaches : Reaches settings environment before after)
    (goal : Reaches settings other whole last) (drained : Step.ready last.plan.steps = []) :
    ∃ later, Reaches settings other whole later ∧ Reaches settings other later last ∧
      Follows shelved earlier after later := by
  induction reaches with
  | refl => exact ⟨whole, .refl, goal, follows⟩
  | @tail between after reaches advances ih =>
      obtain ⟨later, toLater, onwards, follows⟩ := ih
      have coherentLater := coherent.of_reaches toLater
      have distinct := (coherentBefore.of_reaches reaches).distinct
      have ready := follows.ready coherentLater
      obtain ⟨someReady, -, -, rfl⟩ := advances
      -- The other run has not come to its end, where nothing is ready.
      rcases ReflTransGen.cases_head onwards with rfl | ⟨following, step, onwards⟩
      · exact absurd (ready.trans drained) someReady
      · obtain rfl := step.next
        exact ⟨_, toLater.tail step, onwards,
          follows.next same templates otherTemplates coherentLater distinct step⟩

/-- Where both runs have come to their ends, the resumed one has come as far as the other. -/
theorem to_end (follows : Follows shelved earlier before whole)
    (coherent : Coherent first whole) (coherentBefore : Coherent resumed before)
    (reaches : Reaches settings environment before after)
    (goal : Reaches settings other whole last) (drained : Step.ready last.plan.steps = [])
    (drainedToo : Step.ready after.plan.steps = []) : Follows shelved earlier after last := by
  obtain ⟨later, toLater, onwards, followsLater⟩ :=
    follows.of_reaches same templates otherTemplates coherent coherentBefore reaches goal drained
  have ready := followsLater.ready (coherent.of_reaches toLater)
  cases ReflTransGen.cases_head onwards with
  | inl isLast => exact isLast ▸ followsLater
  | inr further =>
      obtain ⟨following, advances, -⟩ := further
      exact absurd (ready.symm.trans drainedToo) advances.ready

end Together

/-- Both runs leave the same steps. -/
theorem abandoned (follows : Follows shelved earlier resumed whole) :
    resumed.plan.steps.map Step.abandoned = whole.plan.steps.map Step.abandoned := by
  rw [follows.steps, List.map_map]
  refine List.map_congr_left fun step member => ?_
  rw [Function.comp_apply]
  by_cases isShelved : step.id ∈ shelved
  · rw [Step.shelve_of_mem isShelved, Step.abandoned_of_not_pending (by simp),
      Step.abandoned_of_pending (follows.pending step member isShelved)]
  · rw [Step.shelve_of_not_mem isShelved]

end Follows

/-! ## The first run and the second one -/

theorem follows_start (plan : Plan) : Follows [] [] (start plan) (start plan) :=
  ⟨(Step.map_shelve_nil _).symm, by simp, by simp, by simp, [], rfl, .nil⟩

/-- Where the first run was cancelled, the second one starts as far as a single run has come. -/
theorem Follows.resume {report : Report} {cut : Progress}
    (follows : Follows [] [] cut whole)
    (concludes : plan.Concludes settings environment report cut) :
    Follows (Step.unreachable cut.plan.steps) whole.batches
      (start (plan.run settings environment).plan) whole := by
  have coherent := concludes.coherent
  have same : cut.plan.steps = whole.plan.steps := by
    rw [follows.steps, Step.map_shelve_nil]
  have unreachable : ∀ {id}, id ∈ Step.unreachable cut.plan.steps ↔
      ∃ step ∈ whole.plan.steps, step.id = id ∧ step.status = .pending ∧
        ¬Step.Settles whole.plan.steps step.id := by
    intro id
    rw [Step.mem_unreachable_iff coherent.distinct, same]
  have distinct : Step.Distinct whole.plan.steps := same ▸ coherent.distinct
  refine ⟨?_, ?_, ?_, ?_, [], by simp, .nil⟩
  · rw [steps_start, concludes.steps, ← same, Plan.skipUnreachable, Plan.withStatus, List.map_map]
    refine List.map_congr_left fun step member => ?_
    have idle : (step.shelve (Step.unreachable cut.plan.steps)).status ≠ .running := by
      unfold Step.shelve
      split
      · simp
      · exact coherent.idle step member
    exact if_neg idle
  · intro step member isUnreachable
    obtain ⟨other, otherMember, named, pending, -⟩ := unreachable.1 isUnreachable
    rwa [distinct.eq_of_id_eq otherMember member named] at pending
  · intro id isUnreachable
    obtain ⟨step, -, rfl, -, stuck⟩ := unreachable.1 isUnreachable
    exact stuck
  · intro step member pending reachable id depends isUnreachable
    have settles : Step.Settles whole.plan.steps step.id := by
      by_contra stuck
      exact reachable (unreachable.2 ⟨step, member, rfl, pending, stuck⟩)
    obtain ⟨other, -, rfl, -, stuck⟩ := unreachable.1 isUnreachable
    exact stuck ((Step.settles_iff_of_pending distinct member pending).1 settles _ depends)

/-- The batches of both runs are those of the single run, first the ones and then the others. -/
theorem Plan.Concludes.resumes {uninterrupted stopped resumed : Environment}
    {full part rest : Report} {whole cut last : Progress}
    (concludes : plan.Concludes settings uninterrupted full whole)
    (partConcludes : plan.Concludes settings stopped part cut)
    (restConcludes : (plan.run settings stopped).plan.Concludes settings resumed rest last)
    (templates : uninterrupted.UsesTemplates input)
    (stoppedTemplates : stopped.UsesTemplates input)
    (resumedTemplates : resumed.UsesTemplates input)
    (stoppedAnswers :
      SameAnswers settings settings stopped.toGateways uninterrupted.toGateways)
    (resumedAnswers :
      SameAnswers settings settings resumed.toGateways uninterrupted.toGateways)
    (uncancelled : full.cancelled = false) (finished : rest.cancelled = false) :
    ∃ shelved before afterwards, whole.batches = before ++ afterwards ∧
      List.Forall₂ Batch.Alike cut.batches before ∧
      List.Forall₂ Batch.Alike last.batches afterwards ∧
      Follows shelved before last whole := by
  have start := concludes.valid.coherent_start
  have wholeDrained := concludes.drained uncancelled
  -- The single run passes through the point at which the first run was cancelled.
  obtain ⟨middle, toMiddle, onwards, follows⟩ :=
    (follows_start plan).of_reaches stoppedAnswers stoppedTemplates templates start start
      partConcludes.reaches concludes.reaches wholeDrained
  have coherent := start.of_reaches toMiddle
  have followsLater := (follows.resume partConcludes).to_end resumedAnswers resumedTemplates
    templates coherent restConcludes.valid.coherent_start restConcludes.reaches onwards
    wholeDrained (restConcludes.drained finished)
  obtain ⟨before, batchesBefore, alike⟩ := follows.batches
  obtain ⟨afterwards, batches, alikeLater⟩ := followsLater.batches
  rw [List.nil_append] at batchesBefore
  subst batchesBefore
  exact ⟨_, middle.batches, afterwards, batches, alike, alikeLater, followsLater⟩

/--
A run that was cancelled between any two batches, and another run of the plan that it has left,
leave just the steps that a single run leaves. Together they have the records of the single run, but
for the times: no step is attempted twice and none is lost. The records even stand in the same order
if batches of the same steps end in the same order.
-/
theorem resumed_eq_uninterrupted {uninterrupted stopped resumed : Environment}
    (valid : plan.validate = .ok ()) (templates : uninterrupted.UsesTemplates input)
    (stoppedTemplates : stopped.UsesTemplates input)
    (resumedTemplates : resumed.UsesTemplates input)
    (stoppedAnswers :
      SameAnswers settings settings stopped.toGateways uninterrupted.toGateways)
    (resumedAnswers :
      SameAnswers settings settings resumed.toGateways uninterrupted.toGateways)
    (uncancelled : plan.Uncancelled settings uninterrupted)
    (finishes : (plan.run settings stopped).plan.Uncancelled settings resumed) :
    ∃ full part rest,
      (plan.run settings uninterrupted).outcome = .ok full ∧
      (plan.run settings stopped).outcome = .ok part ∧
      ((plan.run settings stopped).plan.run settings resumed).outcome = .ok rest ∧
      ((plan.run settings stopped).plan.run settings resumed).plan.steps =
        (plan.run settings uninterrupted).plan.steps ∧
      ((part.executedSteps ++ rest.executedSteps).map StepRecord.untimed).Perm
        (full.executedSteps.map StepRecord.untimed) ∧
      ((part.executedSteps ++ rest.executedSteps).map (·.stepId)).Nodup ∧
      (SameOrder stopped uninterrupted (plan.run settings stopped).batches
          (plan.run settings uninterrupted).batches →
        SameOrder resumed uninterrupted
          ((plan.run settings stopped).plan.run settings resumed).batches
          (plan.run settings uninterrupted).batches →
        (part.executedSteps ++ rest.executedSteps).map StepRecord.untimed =
          full.executedSteps.map StepRecord.untimed) := by
  rw [Plan.validate_eq_ok] at valid
  obtain ⟨full, whole, fullOutcome, concludes⟩ := valid.concludes settings templates
  obtain ⟨part, cut, partOutcome, partConcludes⟩ := valid.concludes settings stoppedTemplates
  have validLeft : (plan.run settings stopped).plan.Valid :=
    valid.of_design partConcludes.design.symm
  obtain ⟨rest, last, restOutcome, restConcludes⟩ :=
    validLeft.concludes settings resumedTemplates
  have isUncancelled := uncancelled full fullOutcome
  have isFinished := finishes rest restOutcome
  obtain ⟨shelved, before, afterwards, batches, alike, alikeLater, follows⟩ :=
    concludes.resumes partConcludes restConcludes templates stoppedTemplates resumedTemplates
      stoppedAnswers resumedAnswers isUncancelled isFinished
  have fullRecords : full.executedSteps.map StepRecord.untimed =
      before.flatMap (·.outcomes uninterrupted) ++
        afterwards.flatMap (·.outcomes uninterrupted) := by
    rw [concludes.records_untimed, batches, List.flatMap_append]
  have bothRecords : (part.executedSteps ++ rest.executedSteps).map StepRecord.untimed =
      cut.batches.flatMap (·.outcomes stopped) ++ last.batches.flatMap (·.outcomes resumed) := by
    rw [List.map_append, partConcludes.records_untimed, restConcludes.records_untimed]
  have perm : ((part.executedSteps ++ rest.executedSteps).map StepRecord.untimed).Perm
      (full.executedSteps.map StepRecord.untimed) := by
    rw [fullRecords, bothRecords]
    exact (flatMap_outcomes_perm alike).append (flatMap_outcomes_perm alikeLater)
  refine ⟨full, part, rest, fullOutcome, partOutcome, restOutcome, ?_, perm, ?_, ?_⟩
  · rw [restConcludes.steps_of_drained isFinished, concludes.steps_of_drained isUncancelled,
      follows.abandoned]
  · have ids := perm.map (·.stepId)
    rw [List.map_map, List.map_map] at ids
    exact ids.nodup_iff.2 concludes.nodup_records
  · intro order orderLater
    rw [partConcludes.batches, concludes.batches, batches] at order
    rw [restConcludes.batches, concludes.batches, batches] at orderLater
    rw [fullRecords, bothRecords]
    refine congrArg₂ _ (flatMap_outcomes_eq alike ?_ ?_) (flatMap_outcomes_eq alikeLater ?_ ?_)
    · exact fun batch member => partConcludes.coherent.nodup_batch member
    · exact fun batch member second secondMember =>
        order batch member second (List.mem_append_left _ secondMember)
    · exact fun batch member => restConcludes.coherent.nodup_batch member
    · exact fun batch member second secondMember =>
        orderLater batch member second (List.mem_append_right _ secondMember)

/-- A step that waits for an optional one, which waits for a step that fails. -/
def waitingPlan : Plan :=
  { Plan.blank with
    id := "waiting"
    steps :=
      [Step.new "fetch" "download" .null,
        { (Step.new "enrich" "lookup" .null).dependingOn ["fetch"] with optional := true },
        (Step.new "merge" "join" .null).dependingOn ["enrich"],
        Step.new "audit" "log" (.string "\x7b\x7binput\x7d\x7d")] }

/-- A world in which the first step fails, and the run is cancelled at some point. -/
def waitingWorld (cancelAt : Option CancelPoint) : Environment :=
  Rehearsal.environment
    { context := { input := "nightly" }
      scripts := [("fetch", [⟨20, .failure "no route"⟩])]
      cancelAt
      cuesResolver := false } "run" default

/-- Settings for runs in which the steps have their turns one at a time. -/
def singleFile : Settings := { maxParallelSteps := 1 }

/-- The plan that is left when the run is cancelled after the first step. -/
def waitingRemainder : Plan :=
  (waitingPlan.run singleFile (waitingWorld (some (.afterStep "fetch")))).plan

/-- The optional step is skipped when the run is cancelled, and still lets nobody run later. -/
theorem resumed_eq_uninterrupted_waiting :
    ∃ full part rest,
      (waitingPlan.run singleFile (waitingWorld none)).outcome = .ok full ∧
      (waitingPlan.run singleFile (waitingWorld (some (.afterStep "fetch")))).outcome = .ok part ∧
      (waitingRemainder.run singleFile (waitingWorld none)).outcome = .ok rest ∧
      part.executedSteps.map (·.stepId) = ["fetch"] ∧ part.skippedSteps = ["enrich", "merge"] ∧
      rest.executedSteps.map (·.stepId) = ["audit"] ∧
      (waitingRemainder.run singleFile (waitingWorld none)).plan.steps =
        (waitingPlan.run singleFile (waitingWorld none)).plan.steps ∧
      ((part.executedSteps ++ rest.executedSteps).map StepRecord.untimed).Perm
        (full.executedSteps.map StepRecord.untimed) := by
  have first : ((waitingPlan.run singleFile
      (waitingWorld (some (.afterStep "fetch")))).outcome.toOption.map fun report =>
        (report.executedSteps.map (·.stepId), report.skippedSteps)) =
      some (["fetch"], ["enrich", "merge"]) := by
    decide +kernel
  have second : ((waitingRemainder.run singleFile
      (waitingWorld none)).outcome.toOption.map fun report =>
        report.executedSteps.map (·.stepId)) = some ["audit"] := by
    decide +kernel
  have templates : ∀ cancelAt, (waitingWorld cancelAt).UsesTemplates "nightly" :=
    fun _ _ _ => rfl
  have answers : ∀ cancelAt, SameAnswers singleFile singleFile
      (waitingWorld cancelAt).toGateways (waitingWorld none).toGateways :=
    fun _ => ⟨rfl, fun _ _ => rfl⟩
  obtain ⟨full, part, rest, fullOutcome, partOutcome, restOutcome, steps, perm, -, -⟩ :=
    resumed_eq_uninterrupted (show waitingPlan.validate = .ok () from rfl) (templates none)
      (templates (some (.afterStep "fetch"))) (templates none) (answers _) (answers _)
      (Plan.uncancelled_of_free fun _ => rfl) (Plan.uncancelled_of_free fun _ => rfl)
  change (waitingRemainder.run _ _).outcome = _ at restOutcome
  rw [partOutcome] at first
  rw [restOutcome] at second
  obtain ⟨ids, skipped⟩ := Prod.mk.inj (Option.some.inj first)
  have idsLater := Option.some.inj second
  exact ⟨full, part, rest, fullOutcome, partOutcome, restOutcome, ids, skipped, idsLater, steps,
    perm⟩

end PlanRunner
