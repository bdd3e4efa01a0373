import Mathlib.Data.List.Forall2
import Mathlib.Data.List.Perm.Basic
import PlanRunner.Proofs.Run.Outcome

/-!
# Records of batches

The records of a run are those of its batches, one batch after the other. Without its times the
record of a turn follows from the turn without its times. Batches whose turns differ in times only
have the same records but for the times, and have them in the same order if the turns end in the
same order.
-/

namespace PlanRunner

open Progress

variable {settings : Settings} {environment other : Environment} {plan : Plan}
  {progress : Progress} {batch second : Batch} {batches others : List Batch}

/-! ## One batch -/

@[simp] theorem Turn.untimed_untimed (turn : Turn) : turn.untimed.untimed = turn.untimed := by
  simp [untimed, Call.untimed, Function.comp_def]

/-- The record of a turn without its times, unless the turn was broken off. -/
def Turn.outcome? (turn : Turn) : Option StepRecord :=
  (turn.record? default).map StepRecord.untimed

theorem Turn.outcome?_untimed (turn : Turn) : turn.untimed.outcome? = turn.outcome? :=
  record?_untimed turn.untimed_untimed default default

/-- Lists with the same entries are the same if they have the same distinct keys in order. -/
theorem eq_of_keys {α β : Type} {key : α → β} {entries more : List α} (perm : entries.Perm more)
    (distinct : (entries.map key).Nodup) (keys : entries.map key = more.map key) :
    entries = more := by
  refine List.ext_getElem perm.length_eq fun position inFirst inSecond => ?_
  refine List.inj_on_of_nodup_map distinct (List.getElem_mem inFirst)
    (perm.mem_iff.2 (List.getElem_mem inSecond)) ?_
  have inKeys : position < (entries.map key).length := by simpa using inFirst
  have same := List.getElem_of_eq keys inKeys
  simpa using same

/-- The records of a batch without their times, in the order in which the turns end. -/
def Batch.outcomes (environment : Environment) (batch : Batch) : List StepRecord :=
  (environment.ended batch.turns).filterMap Turn.outcome?

/-- Two batches of the same steps, whose turns have the same records but for the times. -/
def Batch.SameOutcomes (batch second : Batch) : Prop :=
  batch.turns.map (fun turn => (turn.step.id, turn.outcome?)) =
    second.turns.map fun turn => (turn.step.id, turn.outcome?)

/-- Two batches whose turns differ in times only. -/
def Batch.Alike (batch second : Batch) : Prop :=
  batch.turns.map Turn.untimed = second.turns.map Turn.untimed

namespace Batch

theorem outcomes_perm_turns (environment : Environment) (batch : Batch) :
    (batch.outcomes environment).Perm (batch.turns.filterMap Turn.outcome?) :=
  (ended_perm environment batch.turns).filterMap Turn.outcome?

namespace SameOutcomes

variable (same : batch.SameOutcomes second)

include same

theorem ids_eq : batch.turns.map (·.step.id) = second.turns.map (·.step.id) := by
  have mapped := congrArg (List.map Prod.fst) same
  rwa [List.map_map, List.map_map] at mapped

/-- Batches with the same outcomes have the same records, in whatever order. -/
theorem outcomes_perm : (batch.outcomes environment).Perm (second.outcomes other) := by
  have mapped := congrArg (List.filterMap Prod.snd) same
  rw [List.filterMap_map, List.filterMap_map] at mapped
  exact (outcomes_perm_turns environment batch).trans
    (mapped ▸ (outcomes_perm_turns other second).symm)

/-- They have them in the same order if their turns end in the same order. -/
theorem outcomes_eq (distinct : (batch.turns.map (·.step.id)).Nodup)
    (order : (environment.ended batch.turns).map (·.step.id) =
      (other.ended second.turns).map (·.step.id)) :
    batch.outcomes environment = second.outcomes other := by
  have ended := ended_perm environment batch.turns
  have perm : ((environment.ended batch.turns).map
        fun turn => (turn.step.id, turn.outcome?)).Perm
      ((other.ended second.turns).map fun turn => (turn.step.id, turn.outcome?)) := by
    refine (ended.map _).trans ?_
    rw [same]
    exact (ended_perm other second.turns).symm.map _
  have named : (((environment.ended batch.turns).map
      fun turn => (turn.step.id, turn.outcome?)).map Prod.fst).Nodup := by
    rw [List.map_map]
    exact (ended.map _).nodup_iff.2 distinct
  have equal := eq_of_keys perm named (by rwa [List.map_map, List.map_map])
  have mapped := congrArg (List.filterMap Prod.snd) equal
  rwa [List.filterMap_map, List.filterMap_map] at mapped

end SameOutcomes

/-- Batches that differ in times only have the same outcomes. -/
theorem Alike.sameOutcomes (alike : batch.Alike second) : batch.SameOutcomes second := by
  have view : (fun turn : Turn => (turn.step.id, turn.outcome?)) =
      (fun turn => (turn.step.id, turn.outcome?)) ∘ Turn.untimed :=
    funext fun turn => congrArg (Prod.mk turn.step.id) turn.outcome?_untimed.symm
  rw [SameOutcomes, view, ← List.map_map, alike, List.map_map]

end Batch

/-! ## All batches -/

/-- Batches that take the same steps end in the same order in both worlds. -/
def SameOrder (environment other : Environment) (batches others : List Batch) : Prop :=
  ∀ batch ∈ batches, ∀ second ∈ others,
    batch.turns.map (·.step.id) = second.turns.map (·.step.id) →
      (environment.ended batch.turns).map (·.step.id) =
        (other.ended second.turns).map (·.step.id)

theorem flatMap_perm_of_sameOutcomes (same : List.Forall₂ Batch.SameOutcomes batches others) :
    (batches.flatMap (·.outcomes environment)).Perm (others.flatMap (·.outcomes other)) := by
  induction same with
  | nil => exact .refl _
  | cons first _ ih => exact first.outcomes_perm.append ih

theorem flatMap_eq_of_sameOutcomes (same : List.Forall₂ Batch.SameOutcomes batches others)
    (distinct : ∀ batch ∈ batches, (batch.turns.map (·.step.id)).Nodup)
    (order : SameOrder environment other batches others) :
    batches.flatMap (·.outcomes environment) = others.flatMap (·.outcomes other) := by
  induction same with
  | nil => rfl
  | @cons batch second batches others first _ ih =>
      have equal := first.outcomes_eq (distinct batch List.mem_cons_self)
        (order batch List.mem_cons_self second List.mem_cons_self first.ids_eq)
      have rest := ih (fun batch member => distinct batch (List.mem_cons_of_mem _ member))
        fun batch member second secondMember =>
          order batch (List.mem_cons_of_mem _ member) second (List.mem_cons_of_mem _ secondMember)
      simp only [List.flatMap_cons, equal, rest]

theorem flatMap_outcomes_perm (alike : List.Forall₂ Batch.Alike batches others) :
    (batches.flatMap (·.outcomes environment)).Perm (others.flatMap (·.outcomes other)) :=
  flatMap_perm_of_sameOutcomes (alike.imp fun _ _ => Batch.Alike.sameOutcomes)

theorem flatMap_outcomes_eq (alike : List.Forall₂ Batch.Alike batches others)
    (distinct : ∀ batch ∈ batches, (batch.turns.map (·.step.id)).Nodup)
    (order : SameOrder environment other batches others) :
    batches.flatMap (·.outcomes environment) = others.flatMap (·.outcomes other) :=
  flatMap_eq_of_sameOutcomes (alike.imp fun _ _ => Batch.Alike.sameOutcomes) distinct order

/-- The records of a batch, in the order in which its turns end. -/
def Batch.records (environment : Environment) (batch : Batch) : List StepRecord :=
  (environment.ended batch.turns).filterMap
    (·.record? (environment.startedAt.after batch.startsAt))

theorem Batch.mem_records_iff {record : StepRecord} :
    record ∈ batch.records environment ↔
      ∃ turn ∈ batch.turns,
        turn.record? (environment.startedAt.after batch.startsAt) = some record := by
  rw [records, List.mem_filterMap]
  exact exists_congr fun turn => and_congr_left fun _ => (ended_perm environment _).mem_iff

theorem Batch.map_untimed_records (environment : Environment) (batch : Batch) :
    (batch.records environment).map StepRecord.untimed = batch.outcomes environment := by
  rw [records, List.map_filterMap]
  exact List.filterMap_congr fun turn _ => Turn.record?_untimed rfl _ _

/-- The records of a run are those of its batches, one batch after the other. -/
theorem records_eq_flatMap (reaches : Reaches settings environment (start plan) progress) :
    progress.records = progress.batches.flatMap (·.records environment) := by
  induction reaches with
  | refl => rfl
  | @tail before after _ advances ih =>
      obtain ⟨-, -, -, rfl⟩ := advances
      rw [records_next, batches_next, List.flatMap_append, List.flatMap_singleton, ih]
      rfl

theorem records_untimed (reaches : Reaches settings environment (start plan) progress) :
    progress.records.map StepRecord.untimed =
      progress.batches.flatMap (·.outcomes environment) := by
  rw [records_eq_flatMap reaches, List.map_flatMap]
  exact List.flatMap_congr fun batch _ => batch.map_untimed_records environment

theorem Plan.Concludes.records_untimed {report : Report} {last : Progress}
    (concludes : plan.Concludes settings environment report last) :
    report.executedSteps.map StepRecord.untimed =
      last.batches.flatMap (·.outcomes environment) := by
  rw [concludes.records, PlanRunner.records_untimed concludes.reaches]

theorem Plan.records_untimed_of_run_ok {report : Report}
    (outcome : (plan.run settings environment).outcome = .ok report) :
    report.executedSteps.map StepRecord.untimed =
      (plan.run settings environment).batches.flatMap (·.outcomes environment) := by
  obtain ⟨last, concludes⟩ := Plan.concludes_of_run_ok outcome
  rw [concludes.batches]
  exact concludes.records_untimed

/-- The records of a run are those of its turns, in whatever order. -/
theorem records_untimed_perm (reaches : Reaches settings environment (start plan) progress) :
    (progress.records.map StepRecord.untimed).Perm (progress.taken.filterMap Turn.outcome?) := by
  rw [records_untimed reaches, taken, List.filterMap_flatMap]
  exact List.Perm.flatMap_left _ fun batch _ => batch.outcomes_perm_turns environment

end PlanRunner
