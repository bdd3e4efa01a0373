import PlanRunner.Proofs.Run.Permanence
import PlanRunner.Proofs.Run.Records

/-!
# Three accounts of a run

When a turn ends its outcome goes into the plan, into the records of the report and to the trackers.
The records and what the trackers are told follow the batches and, within a batch, the order in
which the turns end. Neither a later batch nor the end of the run changes a step that has its
outcome, so that all accounts agree.
-/

namespace PlanRunner

open Progress

variable {settings : Settings} {environment : Environment} {plan : Plan} {progress : Progress}
  {report : Report} {turn : Turn} {record : StepRecord} {start : Timestamp}

/-! ## One turn -/

/-- A record says of a step what the plan says of it. -/
structure StepRecord.Agrees (record : StepRecord) (step : Step) : Prop where
  named : step.id = record.stepId
  status : step.status = if record.success then .succeeded else .failed
  result : step.result = record.result
  error : step.error = record.error
  /-- There is a result after a success, and only then. -/
  answered : record.result.isSome = record.success
  /-- There is an error after a failure, and only then. -/
  explained : record.error.isSome = !record.success

/-- What records and trackers have in common: the step, whether it succeeded, and its attempts. -/
def StepRecord.notice (record : StepRecord) : String × Bool × UInt32 :=
  (record.stepId, record.success, record.attempts)

/-- What records and trackers have in common: the step, whether it succeeded, and its attempts. -/
def Operation.notice (operation : Operation) : String × Bool × UInt32 :=
  (operation.stepId, operation.success, operation.attempts)

namespace Turn

/-- The record of a turn agrees with the step as the turn has left it. -/
theorem agrees_of_record? (isRecord : turn.record? start = some record) :
    record.Agrees turn.marked := by
  unfold record? at isRecord
  cases ending : turn.ending with
  | broken message => simp [ending] at isRecord
  | settled answer retryCount attempts =>
      cases answer with
      | success content =>
          simp only [ending, Option.some.injEq] at isRecord
          subst isRecord
          constructor <;> simp [marked, mark, ending, Answer.isSuccess]
      | failure message =>
          simp only [ending, Option.some.injEq] at isRecord
          subst isRecord
          constructor <;> simp [marked, mark, ending, Answer.isSuccess]

theorem settled_of_record? (isRecord : turn.record? start = some record) : turn.Settled := by
  unfold record? at isRecord
  unfold Settled error?
  cases ending : turn.ending with
  | broken message => simp [ending] at isRecord
  | settled answer retryCount attempts => rfl

theorem completedAt_of_record? (isRecord : turn.record? start = some record) :
    record.completedAt = start.after turn.elapsed := by
  unfold record? at isRecord
  cases ending : turn.ending with
  | broken message => simp [ending] at isRecord
  | settled answer retryCount attempts =>
      simp only [ending, Option.some.injEq] at isRecord
      rw [← isRecord]

/-- Trackers are told of a turn what is on its record. -/
theorem notice_operation? (planId : String) (startsAt : Nat) (start : Timestamp) (turn : Turn) :
    (turn.operation? planId startsAt).map Operation.notice =
      (turn.record? start).map StepRecord.notice := by
  unfold operation? record?
  cases turn.ending with
  | broken message => rfl
  | settled answer retryCount attempts => rfl

end Turn

/-! ## What is on record -/

/-- The records of a run that gives a report are those of its batches, one after the other. -/
theorem Plan.records_of_run_ok (outcome : (plan.run settings environment).outcome = .ok report) :
    report.executedSteps =
      (plan.run settings environment).batches.flatMap (·.records environment) := by
  obtain ⟨last, concludes⟩ := Plan.concludes_of_run_ok outcome
  rw [concludes.batches, concludes.records]
  exact records_eq_flatMap concludes.reaches

/-- A report has the records of all turns, and no others. -/
theorem Plan.mem_executedSteps_iff
    (outcome : (plan.run settings environment).outcome = .ok report) :
    record ∈ report.executedSteps ↔
      ∃ batch ∈ (plan.run settings environment).batches, ∃ turn ∈ batch.turns,
        turn.record? (environment.startedAt.after batch.startsAt) = some record := by
  rw [records_of_run_ok outcome, List.mem_flatMap]
  exact exists_congr fun batch => and_congr_right fun _ => Batch.mem_records_iff

/-- Every record agrees with a step as the run has left it. -/
theorem Plan.exists_agrees (outcome : (plan.run settings environment).outcome = .ok report)
    (member : record ∈ report.executedSteps) :
    ∃ step ∈ (plan.run settings environment).plan.steps, record.Agrees step := by
  obtain ⟨batch, batchMember, turn, inBatch, isRecord⟩ := (mem_executedSteps_iff outcome).1 member
  have turnMember := List.mem_flatMap.2 ⟨batch, batchMember, inBatch⟩
  exact ⟨turn.marked, marked_mem_run turnMember (Turn.settled_of_record? isRecord),
    Turn.agrees_of_record? isRecord⟩

/-! ## What trackers are told -/

@[simp] theorem Progress.operations_next :
    (progress.next settings environment).operations =
      progress.operations ++
        (environment.ended (progress.nextBatch settings environment).turns).filterMap
          (·.operation? progress.plan.id progress.now) := rfl

/-- What trackers are told of a batch, in the order in which its turns end. -/
def Batch.operations (environment : Environment) (planId : String) (batch : Batch) :
    List Operation :=
  (environment.ended batch.turns).filterMap (·.operation? planId batch.startsAt)

/-- Trackers are told of a batch what is on its records. -/
theorem Batch.notices_operations (environment : Environment) (planId : String) (batch : Batch) :
    (batch.operations environment planId).map Operation.notice =
      (batch.records environment).map StepRecord.notice := by
  rw [operations, records, List.map_filterMap, List.map_filterMap]
  exact List.filterMap_congr fun turn _ => Turn.notice_operation? _ _ _ turn

/-- What trackers are told of a run is what they are told of its batches, one after the other. -/
theorem operations_eq_flatMap (valid : plan.Valid)
    (reaches : Reaches settings environment (Progress.start plan) progress) :
    progress.operations = progress.batches.flatMap (·.operations environment plan.id) := by
  induction reaches with
  | refl => rfl
  | @tail before after reached advances ih =>
      have coherent := valid.coherent_start.of_reaches reached
      have named : before.plan.id = plan.id := by rw [coherent.frame]; rfl
      obtain ⟨-, -, -, rfl⟩ := advances
      rw [operations_next, batches_next, List.flatMap_append, List.flatMap_singleton, ih, named]
      rfl

theorem Run.operations_finish (settings : Settings) (environment : Environment) (plan : Plan)
    (progress : Progress) (stop : Stop) :
    (finish settings environment plan progress stop).operations = progress.operations := by
  cases stop <;> rfl

theorem Plan.operations_of_run_ok
    (outcome : (plan.run settings environment).outcome = .ok report) :
    (plan.run settings environment).operations =
      (plan.run settings environment).batches.flatMap (·.operations environment plan.id) := by
  have valid := Plan.valid_of_run_ok outcome
  obtain ⟨last, final, stop, reaches, stops, ran⟩ := valid.run_stops settings environment
  rw [ran] at outcome ⊢
  rw [Run.operations_finish, Run.batches_finish]
  cases stops with
  | drained _ | cancelled _ _ => exact operations_eq_flatMap valid reaches
  | broken ready free broke => contradiction

/-- Trackers are told of a run that gives a report what is on its records. -/
theorem Plan.notices_of_run_ok (outcome : (plan.run settings environment).outcome = .ok report) :
    (plan.run settings environment).operations.map Operation.notice =
      report.executedSteps.map StepRecord.notice := by
  rw [operations_of_run_ok outcome, records_of_run_ok outcome, List.map_flatMap, List.map_flatMap]
  exact List.flatMap_congr fun batch _ => batch.notices_operations environment plan.id

theorem foldl_tell (told : List Operation) (trackers : Nat) (heard : List Operation) :
    told.foldl Operation.tell (List.replicate trackers heard) =
      List.replicate trackers (heard ++ told) := by
  induction told generalizing heard with
  | nil => simp
  | cons first rest ih => simp [Operation.tell, ih]

/-- All trackers are told the same. -/
theorem Run.heard_eq (context : Context) (run : Run) :
    run.heard context = List.replicate context.trackers run.operations := by
  rw [heard, foldl_tell, List.nil_append]

/-! ## Times of completion -/

/-- A point in time in nanoseconds; a leap second coincides with the second after it. -/
def Timestamp.instant (timestamp : Timestamp) : Int :=
  timestamp.seconds * 1000000000 + timestamp.nanoseconds

/-- Milliseconds that go by are added up. -/
theorem Timestamp.instant_after_after (start : Timestamp) (first second : Nat) :
    ((start.after first).after second).instant = (start.after (first + second)).instant := by
  simp only [after, instant]
  omega

theorem Timestamp.instant_after_le (start : Timestamp) {first second : Nat}
    (before : first ≤ second) : (start.after first).instant ≤ (start.after second).instant := by
  simp only [after, instant]
  omega

/-- The longest of some turns, and of a time before them, is no shorter than any of them. -/
theorem Turn.le_foldl_elapsed (turns : List Turn) (before : Nat) :
    before ≤ turns.foldl (fun longest turn => max longest turn.elapsed) before ∧
      ∀ turn ∈ turns,
        turn.elapsed ≤ turns.foldl (fun longest turn => max longest turn.elapsed) before := by
  induction turns generalizing before with
  | nil => simp
  | cons first rest ih =>
      obtain ⟨grows, covers⟩ := ih (max before first.elapsed)
      simp only [List.foldl_cons, List.forall_mem_cons]
      exact ⟨by omega, by omega, covers⟩

theorem Batch.elapsed_le {batch : Batch} (member : turn ∈ batch.turns) :
    turn.elapsed ≤ batch.elapsed :=
  (Turn.le_foldl_elapsed batch.turns 0).2 turn member

/-- Of two turns the one that takes less time has the lower rank. -/
def Environment.EndsInTime (environment : Environment) : Prop :=
  ∀ first second : Turn, first.elapsed < second.elapsed →
    environment.rank first < environment.rank second

namespace Batch

/-- The records of a batch are in the order of completion if its turns end in that order. -/
theorem ordered_records (inTime : environment.EndsInTime) (batch : Batch) :
    (batch.records environment).Pairwise fun first second =>
      first.completedAt.instant ≤ second.completedAt.instant := by
  refine (Ranked.sort_pairwise environment.rank batch.turns).filterMap _ ?_
  intro first second ranked record isRecord later isLater
  have order : first.elapsed ≤ second.elapsed := by
    by_contra! shorter
    exact absurd ranked (Nat.not_le_of_lt (inTime second first shorter))
  rw [Turn.completedAt_of_record? isRecord, Turn.completedAt_of_record? isLater]
  exact Timestamp.instant_after_le _ order

/-- The turns of a batch end between its start and its end. -/
theorem completed_within {batch : Batch} (member : record ∈ batch.records environment) :
    (environment.startedAt.after batch.startsAt).instant ≤ record.completedAt.instant ∧
      record.completedAt.instant ≤
        (environment.startedAt.after (batch.startsAt + batch.elapsed)).instant := by
  obtain ⟨turn, inBatch, isRecord⟩ := mem_records_iff.1 member
  have short := elapsed_le inBatch
  rw [Turn.completedAt_of_record? isRecord, Timestamp.instant_after_after]
  exact ⟨Timestamp.instant_after_le _ (Nat.le_add_right _ _),
    Timestamp.instant_after_le _ (Nat.add_le_add_left short _)⟩

end Batch

/-- The records are in the order of completion, and all of them are of the past. -/
structure Progress.Timely (environment : Environment) (progress : Progress) : Prop where
  ordered : progress.records.Pairwise fun first second =>
    first.completedAt.instant ≤ second.completedAt.instant
  past : ∀ record ∈ progress.records,
    record.completedAt.instant ≤ (environment.startedAt.after progress.now).instant

/-- A batch adds records of its own time. -/
theorem Progress.Timely.next (timely : progress.Timely environment)
    (inTime : environment.EndsInTime) :
    (progress.next settings environment).Timely environment := by
  have records : (progress.next settings environment).records =
      progress.records ++ (progress.nextBatch settings environment).records environment := rfl
  have now : (progress.next settings environment).now =
      progress.now + (progress.nextBatch settings environment).elapsed := rfl
  constructor
  case ordered =>
    rw [records, List.pairwise_append]
    refine ⟨timely.ordered, Batch.ordered_records inTime _, fun first old second new => ?_⟩
    exact (timely.past first old).trans (Batch.completed_within new).1
  case past =>
    rw [records, now]
    refine List.forall_mem_append.2 ⟨fun record old => ?_, fun record new => ?_⟩
    · exact (timely.past record old).trans
        (Timestamp.instant_after_le _ (Nat.le_add_right _ _))
    · exact (Batch.completed_within new).2

theorem timely_of_reaches (inTime : environment.EndsInTime)
    (reaches : Reaches settings environment (Progress.start plan) progress) :
    progress.Timely environment := by
  induction reaches with
  | refl => constructor <;> simp [Progress.start]
  | tail _ advances ih =>
      obtain ⟨-, -, -, rfl⟩ := advances
      exact ih.next inTime

/-! ## The whole run -/

/--
All accounts of a run that gives a report agree. The report has one record for every step that was
attempted: batch by batch, in the order in which the turns of the batch ended, and so in the order
of completion if turns end in the order of their times. A record says of its step what the plan says
of it at the end: that it succeeded, with a result and no error, or that it failed, with an error
and no result. Every tracker has been told of the same steps in the same order, whether they
succeeded and how many attempts it took.
-/
theorem accounts_agree (outcome : (plan.run settings environment).outcome = .ok report)
    (context : Context) :
    (report.executedSteps.map (·.stepId)).Perm (plan.run settings environment).attempted ∧
    (plan.run settings environment).attempted.Nodup ∧
    report.executedSteps =
      (plan.run settings environment).batches.flatMap (·.records environment) ∧
    (environment.EndsInTime → report.executedSteps.Pairwise fun first second =>
      first.completedAt.instant ≤ second.completedAt.instant) ∧
    (∀ record ∈ report.executedSteps,
      ∃ step ∈ (plan.run settings environment).plan.steps, record.Agrees step) ∧
    ((plan.run settings environment).heard context).length = context.trackers ∧
    ∀ heard ∈ (plan.run settings environment).heard context,
      heard.map Operation.notice = report.executedSteps.map StepRecord.notice := by
  refine ⟨Plan.records_perm_attempted outcome, plan.nodup_attempted settings environment,
    Plan.records_of_run_ok outcome, fun inTime => ?ordered,
    fun record member => Plan.exists_agrees outcome member, ?many, fun heard member => ?told⟩
  case ordered =>
    obtain ⟨last, concludes⟩ := Plan.concludes_of_run_ok outcome
    rw [concludes.records]
    exact (timely_of_reaches inTime concludes.reaches).ordered
  case many => rw [Run.heard_eq, List.length_replicate]
  case told =>
    rw [Run.heard_eq] at member
    rw [List.eq_of_mem_replicate member]
    exact Plan.notices_of_run_ok outcome

/-- A parcel whose label is ready before it is packed, and a note that refers to what is no step. -/
def parcelPlan : Plan :=
  { Plan.blank with
    id := "parcel"
    steps :=
      [Step.new "pack" "robot" .null,
        Step.new "label" "printer" .null,
        (Step.new "note" "printer" (.string "\x7b\x7bsender\x7d\x7d")).dependingOn ["pack"],
        (Step.new "ship" "courier" .null).dependingOn ["pack", "label"]] }

/-- A world in which the printer has no ink. -/
def parcelWorld : Environment :=
  Rehearsal.environment
    { context := { trackers := 2 }
      scripts :=
        [("pack", [⟨30, .success (.string "box")⟩]), ("label", [⟨10, .failure "no ink"⟩])]
      cancelAt := none
      cuesResolver := false } "run" default

/-- The label fails first, the note lacks its sender, and all accounts of the parcel agree. -/
theorem accounts_agree_parcel :
    ∃ report, (parcelPlan.run {} parcelWorld).outcome = .ok report ∧
      report.executedSteps.map StepRecord.notice =
        [("label", false, 1), ("pack", true, 1), ("note", false, 0)] ∧
      report.skippedSteps = ["ship"] ∧
      (report.executedSteps.Pairwise fun first second =>
        first.completedAt.instant ≤ second.completedAt.instant) ∧
      (∀ record ∈ report.executedSteps,
        ∃ step ∈ (parcelPlan.run {} parcelWorld).plan.steps, record.Agrees step) ∧
      ((parcelPlan.run {} parcelWorld).heard { trackers := 2 }).length = 2 ∧
      ∀ heard ∈ (parcelPlan.run {} parcelWorld).heard { trackers := 2 },
        heard.map Operation.notice =
          [("label", false, 1), ("pack", true, 1), ("note", false, 0)] := by
  have seen : (parcelPlan.run {} parcelWorld).outcome.toOption.map
      (fun report => (report.executedSteps.map StepRecord.notice, report.skippedSteps)) =
        some ([("label", false, 1), ("pack", true, 1), ("note", false, 0)], ["ship"]) := by
    decide +kernel
  obtain ⟨report, outcome, view⟩ := Run.exists_of_seen seen
  obtain ⟨notices, skipped⟩ := Prod.mk.inj view
  have inTime : parcelWorld.EndsInTime := fun _ _ shorter => shorter
  obtain ⟨-, -, -, ordered, agree, many, told⟩ := accounts_agree outcome { trackers := 2 }
  exact ⟨report, outcome, notices, skipped, ordered inTime, agree, many,
    fun heard member => (told heard member).trans notices⟩

end PlanRunner
