import PlanRunner.Proofs.Run.Records
import PlanRunner.Proofs.Template.Locality
import PlanRunner.Run.Rehearsal

/-!
# Every schedule comes to the same end

Where steps refer only to steps that they depend on, the turn of a step does not depend on when it
has it: all that its arguments look at is settled before, and is never changed again. Two runs that
both go on until no step is ready therefore have the same turns, in whatever order and in whatever
batches they have them. It does not even matter from where they go on, as long as what is settled is
settled as the other run settles it.
-/

namespace PlanRunner

open Progress

variable {settings other : Settings} {environment world : Environment} {plan second : Plan}
  {first progress middle last : Progress} {step : Step} {turn : Turn} {input name : String}

/-- The steps of a plan refer only to steps that they depend on, or to what is no step at all. -/
def Plan.NamesDependencies (plan : Plan) : Prop :=
  ∀ step ∈ plan.steps, ∀ name ∈ Template.namesIn step.arguments,
    name ∈ step.dependencies ∨ ∀ other ∈ plan.steps, other.id ≠ name

theorem Plan.NamesDependencies.of_perm (named : plan.NamesDependencies)
    (permuted : plan.steps.Perm second.steps) : second.NamesDependencies := by
  intro step member name inArguments
  rcases named step (permuted.mem_iff.2 member) name inArguments with depends | unknown
  · exact .inl depends
  · exact .inr fun other otherMember => unknown other (permuted.mem_iff.2 otherMember)

/-! ## What the arguments of a step look at -/

/--
Steps on the way from the start of a plan to how a run leaves them: those that are pending are as
they were at the start, and all others are as they are at the end.
-/
structure Plan.Midway (plan : Plan) (steps final : List Step) : Prop where
  distinct : Step.Distinct steps
  design : steps.map Step.design = plan.steps.map Step.design
  fresh : ∀ step ∈ steps, step.status = .pending → step ∈ (start plan).plan.steps
  settled : ∀ step ∈ steps, step.status ≠ .pending → step ∈ final

namespace Progress

/-- A step that is no longer pending stays where it is while a batch starts. -/
theorem find?_launched_of_done (distinct : Step.Distinct progress.plan.steps)
    (member : step ∈ progress.plan.steps) (begun : step.status ≠ .pending) :
    (progress.launched settings).steps.find? (·.id == step.id) = some step := by
  have absent : step.id ∉ progress.chosen settings :=
    fun chosen => begun (pending_of_chosen distinct member chosen)
  rw [Step.find?_first (distinct_launched distinct), find?_launched distinct member,
    Step.started_of_not_mem absent]

theorem find?_launched_of_unknown
    (design : progress.plan.steps.map Step.design = plan.steps.map Step.design)
    (unknown : ∀ other ∈ plan.steps, other.id ≠ name) :
    (progress.launched settings).steps.find? (·.id == name) = none := by
  refine List.find?_eq_none.2 fun step member same => ?_
  obtain ⟨old, oldMember, rfl⟩ := List.mem_map.1 member
  obtain ⟨other, otherMember, designed⟩ := Step.exists_of_design design oldMember
  refine unknown other otherMember ((Step.id_eq_of_design designed).trans ?_)
  have named : (old.started (progress.chosen settings)).id = name := beq_iff_eq.1 same
  rwa [Step.id_started] at named

end Progress

/-- At two points of two runs at which what a step depends on is the same, so are its arguments. -/
theorem Plan.Midway.resolve_eq {final : List Step}
    (midway : plan.Midway progress.plan.steps final)
    (coherent : Coherent (start second) middle) (named : plan.NamesDependencies)
    (permuted : plan.steps.Perm second.steps) (member : step ∈ progress.plan.steps)
    (done : ∀ id ∈ step.dependencies, ∃ dependency, dependency.id = id ∧
      dependency.status ≠ .pending ∧ dependency ∈ progress.plan.steps ∧
        dependency ∈ middle.plan.steps) :
    Template.resolve (progress.launched settings).steps input step.arguments =
      Template.resolve (middle.launched other).steps input step.arguments := by
  refine Template.resolve_congr fun name inArguments => ?_
  obtain ⟨old, oldMember, design⟩ := Step.exists_of_design midway.design member
  rw [← Step.arguments_eq_of_design design] at inArguments
  unfold Reference.root?
  rcases named old oldMember name inArguments with depends | unknown
  · rw [Step.dependencies_eq_of_design design] at depends
    obtain ⟨dependency, rfl, begun, here, there⟩ := done name depends
    rw [find?_launched_of_done midway.distinct here begun,
      find?_launched_of_done coherent.distinct there begun]
  · have unknownToo : ∀ other ∈ second.steps, other.id ≠ name :=
      fun other otherMember => unknown other (permuted.mem_iff.2 otherMember)
    rw [find?_launched_of_unknown midway.design unknown,
      find?_launched_of_unknown (coherent.design.trans (design_start second)) unknownToo]

/-! ## On the way to the end of a run -/

/-- A run of the steps of a plan, in any order, that has gone on until no step was ready. -/
structure Finished (other : Settings) (world : Environment) (plan second : Plan) (input : String)
    (last : Progress) : Prop where
  valid : plan.Valid
  named : plan.NamesDependencies
  permuted : plan.steps.Perm second.steps
  otherTemplates : world.UsesTemplates input
  reaches : Reaches other world (start second) last
  drained : Step.ready last.plan.steps = []

namespace Finished

theorem coherentStart (finished : Finished other world plan second input last) :
    Coherent (start second) (start second) :=
  (finished.valid.of_perm finished.permuted).coherent_start

theorem coherentLast (finished : Finished other world plan second input last) :
    Coherent (start second) last :=
  finished.coherentStart.of_reaches finished.reaches

theorem mem_start (finished : Finished other world plan second input last) :
    step ∈ (start plan).plan.steps ↔ step ∈ (start second).plan.steps :=
  (finished.permuted.map Step.rested).mem_iff

theorem midway_start (finished : Finished other world plan second input last) :
    plan.Midway (start plan).plan.steps last.plan.steps := by
  refine ⟨finished.valid.coherent_start.distinct, design_start plan, fun step member _ => member,
    fun step member begun => ?_⟩
  exact finished.coherentStart.mem_of_reaches finished.reaches (finished.mem_start.1 member) begun

/-- A step that is ready on the way has its turn in the run. -/
theorem exists_turn_of_ready (finished : Finished other world plan second input last)
    (midway : plan.Midway progress.plan.steps last.plan.steps)
    (member : step ∈ progress.plan.steps) (ready : Step.isReady progress.plan.steps step = true) :
    ∃ same ∈ last.taken, same.step.id = step.id := by
  have pending := (Step.isReady_iff.1 ready).1
  have inStart := finished.mem_start.1 (midway.fresh step member pending)
  refine List.mem_map.1 (finished.coherentLast.taken_of_done finished.coherentStart.distinct
    finished.drained inStart pending fun id depends => ?_)
  obtain ⟨dependency, dependencyMember, named, satisfies⟩ :=
    Step.dependency_of_isReady midway.distinct ready depends
  have begun := Step.not_pending_of_satisfiesDependents satisfies
  exact ⟨dependency, midway.settled dependency dependencyMember begun, named, satisfies⟩

/-- At some point the run takes the step. -/
theorem exists_middle_of_ready (finished : Finished other world plan second input last)
    (midway : plan.Midway progress.plan.steps last.plan.steps)
    (member : step ∈ progress.plan.steps) (ready : Step.isReady progress.plan.steps step = true) :
    ∃ middle, Reaches other world (start second) middle ∧ Reaches other world middle last ∧
      Step.isReady middle.plan.steps step = true ∧
        Turn.take other world.toGateways (middle.launched other).steps
          { step with status := .running } ∈ last.taken := by
  have inStart := finished.mem_start.1 (midway.fresh step member (Step.isReady_iff.1 ready).1)
  obtain ⟨same, sameMember, named⟩ := finished.exists_turn_of_ready midway member ready
  obtain ⟨middle, toMiddle, inBatch, onwards⟩ :=
    exists_of_mem_taken rfl finished.reaches sameMember
  have coherentMiddle := finished.coherentStart.of_reaches toMiddle
  obtain ⟨there, thereMember, chosen, rfl⟩ :=
    (mem_nextBatch_iff coherentMiddle.distinct).1 inBatch
  rw [Turn.step_take] at named
  have pending := pending_of_chosen coherentMiddle.distinct thereMember chosen
  obtain rfl : there = step := finished.coherentStart.distinct.eq_of_id_eq
    (coherentMiddle.mem_start_of_pending thereMember pending) inStart named
  have readyThere := isReady_of_chosen coherentMiddle.distinct thereMember chosen
  exact ⟨middle, toMiddle, onwards, readyThere, sameMember⟩

/-- What a step depends on is the same wherever the step is ready. -/
theorem dependency_of_ready (finished : Finished other world plan second input last)
    (midway : plan.Midway progress.plan.steps last.plan.steps)
    (coherentMiddle : Coherent (start second) middle) (onwards : Reaches other world middle last)
    (ready : Step.isReady progress.plan.steps step = true)
    (readyThere : Step.isReady middle.plan.steps step = true) :
    ∀ id ∈ step.dependencies, ∃ dependency, dependency.id = id ∧
      dependency.status ≠ .pending ∧ dependency ∈ progress.plan.steps ∧
        dependency ∈ middle.plan.steps := by
  intro id depends
  obtain ⟨here, hereMember, rfl, satisfies⟩ :=
    Step.dependency_of_isReady midway.distinct ready depends
  obtain ⟨there, thereMember, same, satisfiesThere⟩ :=
    Step.dependency_of_isReady coherentMiddle.distinct readyThere depends
  have begun := Step.not_pending_of_satisfiesDependents satisfies
  have begunThere := Step.not_pending_of_satisfiesDependents satisfiesThere
  have inLast := midway.settled here hereMember begun
  have thereInLast := coherentMiddle.mem_of_reaches onwards thereMember begunThere
  obtain rfl : there = here :=
    finished.coherentLast.distinct.eq_of_id_eq thereInLast inLast same
  exact ⟨there, rfl, begun, hereMember, thereMember⟩

section Together

variable (finished : Finished other world plan second input last)
  (templates : environment.UsesTemplatesOrBreaks input)
  (answers : SameAnswers settings other environment.toGateways world.toGateways)

include finished templates answers

/-- A turn taken on the way, unless it is broken off, is also one of the run, at another time. -/
theorem exists_same_turn (midway : plan.Midway progress.plan.steps last.plan.steps)
    (member : turn ∈ (progress.nextBatch settings environment).turns) (settled : turn.Settled) :
    ∃ same ∈ last.taken, same.untimed = turn.untimed := by
  obtain ⟨step, stepMember, chosen, rfl⟩ := (mem_nextBatch_iff midway.distinct).1 member
  have ready := isReady_of_chosen midway.distinct stepMember chosen
  obtain ⟨middle, toMiddle, onwards, readyThere, isTaken⟩ :=
    finished.exists_middle_of_ready midway stepMember ready
  have coherentMiddle := finished.coherentStart.of_reaches toMiddle
  have resolved : Template.resolve (progress.launched settings).steps input step.arguments =
      Template.resolve (middle.launched other).steps input step.arguments :=
    midway.resolve_eq coherentMiddle finished.named finished.permuted stepMember
      (finished.dependency_of_ready midway coherentMiddle onwards ready readyThere)
  refine ⟨_, isTaken, (Turn.take_untimed answers ?_).symm⟩
  rw [Turn.resolve_of_settled templates settled, finished.otherTemplates]
  exact congrArg Except.ok resolved

theorem marked_mem_last (midway : plan.Midway progress.plan.steps last.plan.steps)
    (member : turn ∈ (progress.nextBatch settings environment).turns) (settled : turn.Settled) :
    turn.marked ∈ last.plan.steps := by
  obtain ⟨same, sameMember, untimed⟩ :=
    finished.exists_same_turn templates answers midway member settled
  rw [← Turn.marked_eq_of_untimed untimed]
  exact finished.coherentLast.marked same sameMember

/-- After a batch the steps are still on the way, if those with a broken turn are pending again. -/
theorem midway_rested_next (midway : plan.Midway progress.plan.steps last.plan.steps) :
    plan.Midway ((progress.next settings environment).plan.steps.map Step.rested)
      last.plan.steps := by
  have distinct := midway.distinct
  -- A step is as it was, or else the batch has settled it.
  have after : ∀ step ∈ progress.plan.steps,
      (stepAfter settings environment progress step).rested = step ∨
        (stepAfter settings environment progress step).rested.status ≠ .pending ∧
          (stepAfter settings environment progress step).rested ∈ last.plan.steps := by
    intro step member
    unfold stepAfter
    split
    · rename_i chosen
      have turnMember := take_mem_nextBatch environment distinct member chosen
      have pending := pending_of_chosen distinct member chosen
      by_cases settled : (Turn.take settings environment.toGateways
          (progress.launched settings).steps { step with status := .running }).Settled
      · have begun := not_pending_marked settled
        have inLast := finished.marked_mem_last templates answers midway turnMember settled
        rw [Step.rested_of_not_running (finished.coherentLast.idle _ inLast)]
        exact .inr ⟨begun, inLast⟩
      · rw [Turn.marked_of_not_settled settled, Turn.step_take]
        exact .inl (Step.rested_running_of_pending pending)
    · refine .inl (Step.rested_of_not_running fun running => ?_)
      have begun : step.status ≠ .pending := by simp [running]
      exact finished.coherentLast.idle step (midway.settled step member begun) running
  rw [plan_next distinct, List.map_map]
  refine ⟨?distinct, ?design, ?fresh, ?settled⟩
  case distinct => exact (Step.distinct_map fun step => by simp).2 distinct
  case design =>
    rw [List.map_map, ← midway.design]
    exact List.map_congr_left fun step _ => by simp
  case fresh =>
    intro step member pending
    obtain ⟨old, oldMember, rfl⟩ := List.mem_map.1 member
    rw [Function.comp_apply] at pending ⊢
    rcases after old oldMember with same | ⟨begun, -⟩
    · rw [same] at pending ⊢
      exact midway.fresh old oldMember pending
    · contradiction
  case settled =>
    intro step member begun
    obtain ⟨old, oldMember, rfl⟩ := List.mem_map.1 member
    rw [Function.comp_apply] at begun ⊢
    rcases after old oldMember with same | ⟨-, inLast⟩
    · rw [same] at begun ⊢
      exact midway.settled old oldMember begun
    · exact inLast

/-- Wherever another run sets out on the way, it stays on the way. -/
theorem midway_of_reaches {before after : Progress} (coherent : Coherent first before)
    (midway : plan.Midway before.plan.steps last.plan.steps)
    (reaches : Reaches settings environment before after) :
    plan.Midway after.plan.steps last.plan.steps := by
  induction reaches with
  | refl => exact midway
  | tail reaches advances ih =>
      have idle := ((coherent.of_reaches reaches).next advances).idle
      obtain ⟨-, -, -, rfl⟩ := advances
      have rested := finished.midway_rested_next templates answers ih
      rwa [Step.map_rested_of_idle idle] at rested

end Together

/-- A step at the end of the run is there on the way, or it is still as it was at the start. -/
theorem exists_counterpart (finished : Finished other world plan second input last)
    (midway : plan.Midway progress.plan.steps last.plan.steps) (member : step ∈ last.plan.steps) :
    ∃ here ∈ progress.plan.steps, here.id = step.id ∧
      (here = step ∨ here.status = .pending ∧ here ∈ (start second).plan.steps) := by
  obtain ⟨old, oldMember, design⟩ := Step.exists_of_design finished.coherentLast.design member
  obtain ⟨here, hereMember, hereDesign⟩ :=
    Step.exists_of_design ((design_start plan).trans midway.design.symm)
      (finished.mem_start.2 oldMember)
  have named := Step.id_eq_of_design (hereDesign.trans design)
  refine ⟨here, hereMember, named, ?_⟩
  by_cases pending : here.status = .pending
  · exact .inr ⟨pending, finished.mem_start.1 (midway.fresh here hereMember pending)⟩
  · have inLast := midway.settled here hereMember pending
    exact .inl (finished.coherentLast.distinct.eq_of_id_eq inLast member named)

/-- Where no step is ready on the way, all that the run settles is settled. -/
theorem mem_of_settled (finished : Finished other world plan second input last)
    (midway : plan.Midway progress.plan.steps last.plan.steps)
    (drained : Step.ready progress.plan.steps = [])
    (toMiddle : Reaches other world (start second) middle)
    (onwards : Reaches other world middle last) (member : step ∈ middle.plan.steps)
    (begun : step.status ≠ .pending) : step ∈ progress.plan.steps := by
  have distinct := finished.coherentStart.distinct
  -- The induction is on how far the run has come: what it takes first is settled first.
  induction toMiddle generalizing step with
  | refl =>
      have inLast := finished.coherentStart.mem_of_reaches finished.reaches member begun
      obtain ⟨here, hereMember, named, same | ⟨pending, inStart⟩⟩ :=
        finished.exists_counterpart midway inLast
      · exact same ▸ hereMember
      · rw [distinct.eq_of_id_eq inStart member named] at pending
        contradiction
  | @tail before after toBefore advances ih =>
      have coherent := finished.coherentStart.of_reaches toBefore
      have inLast := (coherent.next advances).mem_of_reaches onwards member begun
      have settledBefore : ∀ {step : Step}, step ∈ before.plan.steps → step.status ≠ .pending →
          step ∈ progress.plan.steps :=
        ih (.head advances onwards)
      obtain ⟨-, -, -, rfl⟩ := advances
      obtain ⟨old, oldMember, rfl⟩ := (mem_next_iff coherent.distinct).1 member
      by_cases chosen : old.id ∈ before.chosen other
      · obtain ⟨here, hereMember, named, same | ⟨pending, inStart⟩⟩ :=
          finished.exists_counterpart midway inLast
        · exact same ▸ hereMember
        -- The step would be ready, since all that it depends on was settled before.
        · rw [id_stepAfter] at named
          have oldPending := pending_of_chosen coherent.distinct oldMember chosen
          obtain rfl : here = old := distinct.eq_of_id_eq inStart
            (coherent.mem_start_of_pending oldMember oldPending) named
          have ready := isReady_of_chosen coherent.distinct oldMember chosen
          refine absurd ?_ (Step.ready_eq_nil_iff.1 drained here hereMember)
          refine Step.isReady_iff.2 ⟨pending, fun id depends => ?_⟩
          obtain ⟨dependency, dependencyMember, rfl, satisfies⟩ :=
            coherent.dependency_of_ready ready depends
          have here := settledBefore dependencyMember
            (Step.not_pending_of_satisfiesDependents satisfies)
          exact ⟨dependency, (Step.find?_eq_some_iff midway.distinct).2 ⟨here, rfl⟩, satisfies⟩
      · rw [stepAfter, if_neg chosen] at begun ⊢
        exact settledBefore oldMember begun

/-- Where no step is ready on the way, the steps are as at the end of the run. -/
theorem mem_last_of_drained (finished : Finished other world plan second input last)
    (midway : plan.Midway progress.plan.steps last.plan.steps)
    (drained : Step.ready progress.plan.steps = []) (member : step ∈ progress.plan.steps) :
    step ∈ last.plan.steps := by
  have coherentLast := finished.coherentLast
  by_cases pending : step.status = .pending
  -- What is pending cannot have had a turn in the run.
  · have inStart := finished.mem_start.1 (midway.fresh step member pending)
    obtain ⟨late, lateMember, design⟩ := Step.exists_of_design coherentLast.design.symm inStart
    have named := Step.id_eq_of_design design
    by_cases latePending : late.status = .pending
    · have lateStart := coherentLast.mem_start_of_pending lateMember latePending
      rwa [← finished.coherentStart.distinct.eq_of_id_eq lateStart inStart named]
    · have here := finished.mem_of_settled midway drained finished.reaches .refl lateMember
        latePending
      rwa [← midway.distinct.eq_of_id_eq here member named]
  · exact midway.settled step member pending

end Finished

/-! ## Two runs -/

/--
Two runs of the same steps, in any order, which resolve arguments by templates and get the same
answers. The second one has gone on until no step was ready.
-/
structure Rivals (settings other : Settings) (environment world : Environment) (plan second : Plan)
    (input : String) (last : Progress) : Prop extends
    Finished other world plan second input last where
  templates : environment.UsesTemplates input
  answers : SameAnswers settings other environment.toGateways world.toGateways

/-- Each turn of a run is also one of another run, at another time perhaps. -/
def Matched (progress last : Progress) : Prop :=
  ∀ turn ∈ progress.taken, ∃ same ∈ last.taken, same.untimed = turn.untimed

namespace Rivals

theorem midway (rivals : Rivals settings other environment world plan second input last)
    (reaches : Reaches settings environment (start plan) progress) :
    plan.Midway progress.plan.steps last.plan.steps :=
  rivals.midway_of_reaches rivals.templates.orBreaks rivals.answers rivals.valid.coherent_start
    rivals.midway_start reaches

/-- A run has no turns but those of the other run. -/
theorem matched (rivals : Rivals settings other environment world plan second input last)
    (reaches : Reaches settings environment (start plan) progress) : Matched progress last := by
  intro turn member
  obtain ⟨middle, toMiddle, inBatch, -⟩ := exists_of_mem_taken rfl reaches member
  have settled := (rivals.valid.coherent_start.of_reaches reaches).settled turn member
  exact rivals.exists_same_turn rivals.templates.orBreaks rivals.answers
    (rivals.midway toMiddle) inBatch settled

/-- Two runs that have both come to their ends have left the same steps. -/
theorem steps_perm (rivals : Rivals settings other environment world plan second input last)
    (back : Rivals other settings world environment second plan input first) :
    first.plan.steps.Perm last.plan.steps := by
  have nodup : first.plan.steps.Nodup := .of_map _ back.coherentLast.distinct
  have nodupLast : last.plan.steps.Nodup := .of_map _ rivals.coherentLast.distinct
  refine (List.perm_ext_iff_of_nodup nodup nodupLast).2 fun step =>
    ⟨fun member => ?_, fun member => ?_⟩
  · exact rivals.mem_last_of_drained (rivals.midway back.reaches) back.drained member
  · exact back.mem_last_of_drained (back.midway rivals.reaches) rivals.drained member

end Rivals

/-- The records of the turns of one run are among those of the other one. -/
theorem Matched.subset (matched : Matched first last) :
    first.taken.filterMap Turn.outcome? ⊆ last.taken.filterMap Turn.outcome? := by
  intro record member
  obtain ⟨turn, turnMember, recorded⟩ := List.mem_filterMap.1 member
  obtain ⟨same, sameMember, untimed⟩ := matched turn turnMember
  refine List.mem_filterMap.2 ⟨same, sameMember, ?_⟩
  rw [← recorded, ← same.outcome?_untimed, untimed, turn.outcome?_untimed]

theorem Plan.Concludes.nodup_untimed {report : Report}
    (concludes : plan.Concludes settings environment report last) :
    (report.executedSteps.map StepRecord.untimed).Nodup := by
  refine .of_map (·.stepId) ?_
  rw [List.map_map]
  exact concludes.nodup_records

/-- The records of a run that is matched by another one are among those of the other one. -/
theorem Matched.records_subset {report otherReport : Report} (matched : Matched first last)
    (concludes : plan.Concludes settings environment report first)
    (otherConcludes : second.Concludes other world otherReport last) :
    report.executedSteps.map StepRecord.untimed ⊆
      otherReport.executedSteps.map StepRecord.untimed := by
  rw [concludes.records, otherConcludes.records]
  intro record member
  have inTurns := (records_untimed_perm concludes.reaches).mem_iff.1 member
  exact (records_untimed_perm otherConcludes.reaches).mem_iff.2 (matched.subset inTurns)

/--
It does not matter how many steps a batch may start, in which order the turns of a batch end or in
which order the steps are listed. Where steps refer only to steps that they depend on, and get the
same answers, every run that is not cancelled leaves each step in the same way, and has the same
records but for the times.
-/
theorem schedule_independent (valid : plan.validate = .ok ()) (named : plan.NamesDependencies)
    (permuted : plan.steps.Perm second.steps) (templates : environment.UsesTemplates input)
    (otherTemplates : world.UsesTemplates input)
    (answers : SameAnswers settings other environment.toGateways world.toGateways)
    (uncancelled : plan.Uncancelled settings environment)
    (otherUncancelled : second.Uncancelled other world) :
    ∃ report otherReport,
      (plan.run settings environment).outcome = .ok report ∧
      (second.run other world).outcome = .ok otherReport ∧
      (∀ id, (plan.run settings environment).plan.step? id =
        (second.run other world).plan.step? id) ∧
      (plan.run settings environment).plan.steps.Perm (second.run other world).plan.steps ∧
      (report.executedSteps.map StepRecord.untimed).Perm
        (otherReport.executedSteps.map StepRecord.untimed) := by
  rw [Plan.validate_eq_ok] at valid
  have otherValid := valid.of_perm permuted
  obtain ⟨report, first, outcome, concludes⟩ := valid.concludes settings templates
  obtain ⟨otherReport, last, otherOutcome, otherConcludes⟩ :=
    otherValid.concludes other otherTemplates
  have isUncancelled := uncancelled report outcome
  have otherIsUncancelled := otherUncancelled otherReport otherOutcome
  have rivals : Rivals settings other environment world plan second input last :=
    { valid, named, permuted, templates, otherTemplates, answers
      reaches := otherConcludes.reaches
      drained := otherConcludes.drained otherIsUncancelled }
  have back : Rivals other settings world environment second plan input first :=
    { valid := otherValid
      named := named.of_perm permuted
      permuted := permuted.symm
      templates := otherTemplates
      otherTemplates := templates
      answers := answers.symm
      reaches := concludes.reaches
      drained := concludes.drained isUncancelled }
  have steps : (plan.run settings environment).plan.steps.Perm
      (second.run other world).plan.steps := by
    rw [concludes.steps_of_drained isUncancelled,
      otherConcludes.steps_of_drained otherIsUncancelled]
    exact (rivals.steps_perm back).map Step.abandoned
  have distinct : Step.Distinct (plan.run settings environment).plan.steps := by
    rw [concludes.steps_of_drained isUncancelled]
    exact (Step.distinct_map Step.id_abandoned).2 concludes.coherent.distinct
  refine ⟨report, otherReport, outcome, otherOutcome, fun id => ?_, steps, ?_⟩
  · have otherDistinct : Step.Distinct (second.run other world).plan.steps :=
      (steps.map _).nodup_iff.1 distinct
    rw [Plan.step?, Plan.step?, Step.find?_first distinct, Step.find?_first otherDistinct,
      Step.find?_perm distinct steps]
  · refine (List.perm_ext_iff_of_nodup concludes.nodup_untimed otherConcludes.nodup_untimed).2
      fun record => ⟨fun member => ?_, fun member => ?_⟩
    · exact (rivals.matched concludes.reaches).records_subset concludes otherConcludes member
    · exact (back.matched otherConcludes.reaches).records_subset otherConcludes concludes member

/-- A step that refers to what it depends on, and one behind an optional step. -/
def mergingPlan : Plan :=
  { Plan.blank with
    id := "merging"
    steps :=
      [(Step.new "merge" "join"
          (.string "\x7b\x7bfetch\x7d\x7d of \x7b\x7binput\x7d\x7d")).dependingOn
            ["fetch", "enrich"],
        Step.new "fetch" "download" (.string "body"),
        { Step.new "enrich" "lookup" .null with optional := true }] }

/-- The same plan, listed from the back. -/
def mergingBackwards : Plan :=
  { mergingPlan with steps := mergingPlan.steps.reverse }

/-- A world in which the optional step fails after some time. -/
def mergingWorld (delay : UInt64) : Environment :=
  Rehearsal.environment
    { context := { input := "nightly" }
      scripts := [("enrich", [⟨delay, .failure "quota"⟩])]
      cancelAt := none
      cuesResolver := false } "run" default

theorem mergingWorld_answers (delay later : UInt64) :
    SameAnswers {} { enableRewoo := false } (mergingWorld delay).toGateways
      (mergingWorld later).toGateways := by
  refine ⟨rfl, fun action before => ?_⟩
  change (Rehearsal.invoke _ action before).value = (Rehearsal.invoke _ action before).value
  unfold Rehearsal.invoke
  by_cases enrich : action.stepId = "enrich"
  · rw [enrich]
    cases before <;> rfl
  · have absent : (action.stepId == "enrich") = false := by simpa using enrich
    simp [List.lookup_cons, absent]

/-- Side by side or one at a time, from the front or from the back: the end is the same. -/
theorem schedule_independent_merging :
    ∃ report otherReport,
      (mergingPlan.run {} (mergingWorld 20)).outcome = .ok report ∧
      report.executedSteps.map (·.stepId) = ["fetch", "enrich", "merge"] ∧
      (mergingBackwards.run { enableRewoo := false } (mergingWorld 0)).outcome =
        .ok otherReport ∧
      otherReport.executedSteps.map (·.stepId) = ["enrich", "fetch", "merge"] ∧
      (∀ id, (mergingPlan.run {} (mergingWorld 20)).plan.step? id =
        (mergingBackwards.run { enableRewoo := false } (mergingWorld 0)).plan.step? id) ∧
      (report.executedSteps.map StepRecord.untimed).Perm
        (otherReport.executedSteps.map StepRecord.untimed) := by
  have forwards : ((mergingPlan.run {} (mergingWorld 20)).outcome.toOption.map fun report =>
      report.executedSteps.map (·.stepId)) = some ["fetch", "enrich", "merge"] := by
    decide +kernel
  have backwards : ((mergingBackwards.run { enableRewoo := false }
      (mergingWorld 0)).outcome.toOption.map fun report =>
        report.executedSteps.map (·.stepId)) = some ["enrich", "fetch", "merge"] := by
    decide +kernel
  have named : mergingPlan.NamesDependencies := by
    unfold Plan.NamesDependencies
    decide +kernel
  have permuted : mergingPlan.steps.Perm mergingBackwards.steps :=
    (List.reverse_perm mergingPlan.steps).symm
  obtain ⟨report, otherReport, outcome, otherOutcome, found, -, records⟩ :=
    schedule_independent (show mergingPlan.validate = .ok () from rfl) named permuted
      (fun _ _ => rfl) (fun _ _ => rfl) (mergingWorld_answers 20 0)
      (Plan.uncancelled_of_free fun _ => rfl) (Plan.uncancelled_of_free fun _ => rfl)
  rw [outcome] at forwards
  rw [otherOutcome] at backwards
  exact ⟨report, otherReport, outcome, Option.some.inj forwards, otherOutcome,
    Option.some.inj backwards, found, records⟩

end PlanRunner
