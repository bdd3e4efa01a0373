import PlanRunner.Proofs.Run.Accounts

/-!
# Retries

A step calls its tool until a call succeeds, or until it has no retries left. The calls that a turn
repeats are counted twice, on the step and on the record: the retry count goes on from where earlier
runs have left it, and the attempts start anew.
-/

namespace PlanRunner

open Progress

variable {settings : Settings} {environment : Environment} {gateways : Gateways} {plan : Plan}
  {action : Action} {answers : Nat → Answer} {retries : Nat} {repeated : List Call}
  {last : Call} {turn : Turn} {step : Step} {seen : List Step} {resolution : Resolution}
  {batch : Batch} {later : List Batch}

/-! ## Calls until one succeeds -/

/-- Which of the allowed attempts is the first to succeed, counted from one. -/
def firstSuccess? (answers : Nat → Answer) (allowed : Nat) : Option Nat :=
  ((List.range allowed).find? fun index => (answers index).isSuccess).map (· + 1)

/-- The calls that are repeated and the last one, for the answers to all of them. -/
structure Repeated (answers : Nat → Answer) (retries : Nat) (repeated : List Call) (last : Call) :
    Prop where
  few : repeated.length ≤ retries
  /-- The answers come in order. -/
  heard : repeated.map (·.answer) = (List.range repeated.length).map answers
  last : last.answer = answers repeated.length
  failed : ∀ index < repeated.length, (answers index).isSuccess = false
  /-- The last call is not repeated since it succeeded, or since no retries are left. -/
  ended : (answers repeated.length).isSuccess = true ∨ repeated.length = retries

namespace Repeated

/-- A call that is not repeated. -/
theorem single (isLast : last.answer = answers 0)
    (ended : last.answer.isSuccess = true ∨ retries = 0) : Repeated answers retries [] last :=
  ⟨Nat.zero_le _, rfl, isLast, by simp, ended.imp (isLast ▸ ·) Eq.symm⟩

/-- A call that failed comes before the others. -/
theorem cons {first : Call} (isFirst : first.answer = answers 0)
    (isFailure : (answers 0).isSuccess = false)
    (later : Repeated (fun index => answers (index + 1)) retries repeated last) :
    Repeated answers (retries + 1) (first :: repeated) last := by
  refine ⟨Nat.succ_le_succ later.few, ?heard, later.last, ?failed, ?ended⟩
  case heard =>
    rw [List.map_cons, List.length_cons, List.range_succ_eq_map, List.map_cons, List.map_map,
      later.heard, isFirst]
    rfl
  case failed =>
    intro index before
    cases index with
    | zero => exact isFailure
    | succ index => exact later.failed index (Nat.lt_of_succ_lt_succ before)
  case ended => exact later.ended.imp_right (congrArg (· + 1))

/-- All calls together get the answers in order. -/
theorem answers_append (calls : Repeated answers retries repeated last) :
    (repeated ++ [last]).map (·.answer) = (List.range (repeated.length + 1)).map answers := by
  rw [List.map_append, calls.heard, List.range_succ, List.map_append, List.map_singleton,
    calls.last]
  rfl

/-- A step whose last call failed has used all its retries. -/
theorem length_eq (calls : Repeated answers retries repeated last)
    (isFailure : last.answer.isSuccess = false) : repeated.length = retries := by
  refine calls.ended.resolve_left fun isSuccess => ?_
  rw [← calls.last, isFailure] at isSuccess
  contradiction

/-- The tool is called up to the first success, or as often as allowed if there is none. -/
theorem firstSuccess?_eq (calls : Repeated answers retries repeated last) :
    firstSuccess? answers (1 + retries) =
      if last.answer.isSuccess then some (repeated.length + 1) else none := by
  have few := calls.few
  split
  · rename_i isSuccess
    rw [calls.last] at isSuccess
    have isFirst : (List.range (1 + retries)).find? (fun index => (answers index).isSuccess) =
        some repeated.length := by
      refine List.find?_range_eq_some.2 ⟨isSuccess, List.mem_range.2 (by omega), ?_⟩
      exact fun index before => by rw [calls.failed index before]; rfl
    rw [firstSuccess?, isFirst, Option.map_some]
  · rename_i isFailure
    rw [Bool.not_eq_true] at isFailure
    have all := calls.length_eq isFailure
    rw [calls.last] at isFailure
    rw [firstSuccess?, Option.map_eq_none_iff, List.find?_range_eq_none]
    intro index allowed
    rcases Nat.lt_or_eq_of_le (show index ≤ repeated.length by omega) with before | rfl
    · rw [calls.failed index before]
      rfl
    · rw [isFailure]
      rfl

end Repeated

/-- The calls of a step get the answers of the world in order, from some call on. -/
theorem Turn.repeated_callsFrom (settings : Settings) (gateways : Gateways) (action : Action)
    (retries before now : Nat) :
    Repeated (fun index => gateways.answer settings action (before + index)) retries
      (callsFrom settings gateways action retries before now).1
      (callsFrom settings gateways action retries before now).2 := by
  induction retries generalizing before now with
  | zero => exact .single rfl (.inr rfl)
  | succ retries ih =>
      have answer : (callAt settings gateways action before now).answer =
          gateways.answer settings action before := rfl
      simp only [callsFrom]
      cases isFirst : (callAt settings gateways action before now).answer with
      | success content =>
          refine .single rfl (.inl ?_)
          rw [isFirst]
          rfl
      | failure message =>
          rw [answer] at isFirst
          have onwards := ih (before + 1) ((callAt settings gateways action before now).endsAt +
            (settings.retryBackoff (UInt32.ofNat before)).toNat)
          simp only [Nat.add_right_comm before 1] at onwards
          exact .cons isFirst.symm (by rw [Nat.add_zero, isFirst]; rfl) onwards

/-! ## What a turn leaves behind -/

/-- How many attempts a step has: one, and one more for every retry that is left. -/
def Step.attemptsAllowed (settings : Settings) (step : Step) : Nat :=
  1 + ((step.retryBudget settings.maxRetries).toNat - step.retryCount.toNat)

/-- The accounts of a turn that calls its tool, given the answers that it gets in order. -/
structure Turn.Retried (settings : Settings) (answers : Nat → Answer) (before after : Step)
    (turn : Turn) : Prop where
  /-- The answers come in order. -/
  heard : turn.calls.map (·.answer) = (List.range turn.calls.length).map answers
  /-- The tool is called up to the first success, or as often as allowed if there is none. -/
  attempts : turn.calls.length =
    (firstSuccess? answers (before.attemptsAllowed settings)).getD
      (before.attemptsAllowed settings)
  succeeded : after.status = .succeeded ↔
    (firstSuccess? answers (before.attemptsAllowed settings)).isSome = true
  failed : after.status = .failed ↔ firstSuccess? answers (before.attemptsAllowed settings) = none
  /-- The retry count goes up with every call but the first. -/
  counted : after.retryCount.toNat + 1 = before.retryCount.toNat + turn.calls.length
  bounded : after.retryCount.toNat ≤
    max before.retryCount.toNat (before.retryBudget settings.maxRetries).toNat
  /-- The error is that of the last call. -/
  error : ∀ message, after.error = some message ↔
    turn.calls.getLast?.map (·.answer) = some (.failure message)
  /-- A step that failed may not be retried once more. -/
  exhausted : after.status = .failed → after.hasRetryBudget settings.maxRetries = false

namespace Turn

/-- Where nothing is missing the ending of a turn tells of its last call and counts the others. -/
theorem exists_repeated (settings : Settings)
    (resolves : (gateways.resolve step seen).value = .ok resolution)
    (complete : resolution.missing = []) :
    ∃ repeated last,
      Repeated (gateways.answer settings (.ofStep step resolution.arguments))
        (retriesLeft settings step) repeated last ∧
      (take settings gateways seen step).calls = repeated ++ [last] ∧
      (take settings gateways seen step).ending =
        .settled last.answer (step.retryCount + UInt32.ofNat repeated.length)
          (UInt32.ofNat (repeated.length + 1)) := by
  have isComplete : resolution.isComplete = true := List.isEmpty_iff.2 complete
  have calls := repeated_callsFrom settings gateways (.ofStep step resolution.arguments)
    (retriesLeft settings step) 0 (gateways.resolve step seen).delay
  simp only [Nat.zero_add] at calls
  refine ⟨_, _, calls, ?_, ?_⟩ <;> simp only [take, resolves, isComplete, if_true]

/-- What the ending of a turn says of its step. -/
theorem marked_of_ending {answer : Answer} {retryCount attempts : UInt32}
    (ending : turn.ending = .settled answer retryCount attempts) :
    turn.marked.retryCount = retryCount ∧ turn.marked.maxRetries = turn.step.maxRetries ∧
      (turn.marked.status = .succeeded ↔ answer.isSuccess = true) ∧
      (turn.marked.status = .failed ↔ answer.isSuccess = false) ∧
      ∀ message, turn.marked.error = some message ↔ answer = .failure message := by
  unfold marked mark
  rw [ending]
  cases answer <;> simp [Answer.isSuccess]

end Turn

/-- Retries that are left can be counted on without an overflow. -/
theorem toNat_add_of_few {start budget : UInt32} {count : Nat}
    (few : count ≤ budget.toNat - start.toNat) :
    (start + UInt32.ofNat count).toNat = start.toNat + count := by
  have startFits := start.toNat_lt
  have budgetFits := budget.toNat_lt
  rw [UInt32.toNat_add, UInt32.toNat_ofNat']
  omega

/-- A turn accounts for the calls that it repeated and for the last one. -/
theorem Repeated.retried
    (calls : Repeated answers (Turn.retriesLeft settings step) repeated last)
    (made : turn.calls = repeated ++ [last])
    (started : turn.step = { step with status := .running }) {attempts : UInt32}
    (ending : turn.ending =
      .settled last.answer (step.retryCount + UInt32.ofNat repeated.length) attempts) :
    turn.Retried settings answers step turn.marked := by
  obtain ⟨retryCount, maxRetries, succeeded, failed, error⟩ := Turn.marked_of_ending ending
  have first : firstSuccess? answers (step.attemptsAllowed settings) =
      if last.answer.isSuccess then some (repeated.length + 1) else none := calls.firstSuccess?_eq
  have count : turn.marked.retryCount.toNat = step.retryCount.toNat + repeated.length := by
    rw [retryCount]
    exact toNat_add_of_few calls.few
  have length : turn.calls.length = repeated.length + 1 := by
    rw [made, List.length_append, List.length_singleton]
  have few := calls.few
  rw [Turn.retriesLeft] at few
  refine ⟨?heard, ?attempts, ?succeeded, ?failed, by omega, by omega, ?error, ?exhausted⟩
  case heard => rw [length, made, calls.answers_append]
  case attempts =>
    rw [length, first]
    split
    · rfl
    · rename_i isFailure
      rw [Option.getD_none, Step.attemptsAllowed, calls.length_eq (Bool.not_eq_true _ ▸ isFailure),
        Turn.retriesLeft, Nat.add_comm]
  case succeeded =>
    rw [succeeded, first]
    split <;> simp_all
  case failed =>
    rw [failed, first]
    split <;> simp_all
  case error =>
    intro message
    rw [error, made, List.getLast?_concat, Option.map_some, Option.some.injEq]
  case exhausted =>
    intro isFailed
    have all := calls.length_eq (failed.1 isFailed)
    have budget : turn.marked.retryBudget settings.maxRetries =
        step.retryBudget settings.maxRetries := by
      rw [Step.retryBudget, maxRetries, started]
      rfl
    rw [Turn.retriesLeft] at all
    rw [Step.hasRetryBudget, budget, decide_eq_false_iff_not, UInt32.lt_iff_toNat_lt]
    omega

namespace Turn

/-- The accounts of a turn whose arguments miss nothing. -/
theorem retried_take (settings : Settings)
    (resolves : (gateways.resolve { step with status := .running } seen).value = .ok resolution)
    (complete : resolution.missing = []) :
    (take settings gateways seen { step with status := .running }).Retried settings
      (gateways.answer settings (.ofStep step resolution.arguments)) step
      (take settings gateways seen { step with status := .running }).marked := by
  obtain ⟨repeated, last, calls, made, ending⟩ := exists_repeated settings resolves complete
  -- Neither what a step asks for nor how many retries it has left depends on its status.
  change Repeated (gateways.answer settings (.ofStep step resolution.arguments))
    (retriesLeft settings step) repeated last at calls
  exact calls.retried made step_take ending

/-- The record of a turn tells how many calls it made, if their number fits into a word. -/
theorem exists_record (start : Timestamp)
    (resolves : (gateways.resolve { step with status := .running } seen).value = .ok resolution)
    (room : resolution.missing = [] → step.attemptsAllowed settings < UInt32.size) :
    ∃ record,
      (take settings gateways seen { step with status := .running }).record? start = some record ∧
        record.attempts.toNat =
          (take settings gateways seen { step with status := .running }).calls.length := by
  by_cases complete : resolution.missing = []
  · obtain ⟨repeated, last, calls, made, ending⟩ := exists_repeated settings resolves complete
    have few : repeated.length ≤ retriesLeft settings step := calls.few
    have fits : 1 + retriesLeft settings step < UInt32.size := room complete
    rw [record?, ending, made, List.length_append, List.length_singleton]
    exact ⟨_, rfl, UInt32.toNat_ofNat_of_lt' (by omega)⟩
  · obtain ⟨silent, ending⟩ := take_of_missing resolves settings complete
    rw [record?, ending, silent]
    exact ⟨_, rfl, rfl⟩

end Turn

/-! ## Records of the run -/

/-- The record of a turn is the only one of its step. -/
theorem Plan.record?_of_run_ok {report : Report} {record : StepRecord}
    (outcome : (plan.run settings environment).outcome = .ok report)
    (batchMember : batch ∈ (plan.run settings environment).batches) (member : turn ∈ batch.turns)
    (isRecord : turn.record? (environment.startedAt.after batch.startsAt) = some record) :
    report.record? turn.step.id = some record := by
  have inReport : record ∈ report.executedSteps :=
    (mem_executedSteps_iff outcome).2 ⟨batch, batchMember, turn, member, isRecord⟩
  have named : record.stepId = turn.step.id := by
    rw [← (Turn.agrees_of_record? isRecord).named, Turn.id_marked]
  have distinct : (report.executedSteps.map (·.stepId)).Nodup :=
    (records_perm_attempted outcome).nodup_iff.2 (plan.nodup_attempted settings environment)
  cases isFound : report.record? turn.step.id with
  | none =>
      have absent := List.find?_eq_none.1 isFound record inReport
      simp [named] at absent
  | some other =>
      have same : other.stepId = turn.step.id := by simpa using List.find?_some isFound
      have otherMember := List.mem_of_find?_eq_some isFound
      rw [List.inj_on_of_nodup_map distinct otherMember inReport (same.trans named.symm)]

/-! ## The whole run -/

/-- An answer that does not come within the time limit counts as a failure. -/
theorem Gateways.answer_of_late {seconds : UInt64} {index : Nat}
    (limited : settings.stepTimeout? = some seconds)
    (late : seconds.toNat * 1000 < (gateways.invoke action index).delay) :
    gateways.answer settings action index = .timedOut seconds := by
  rw [answer, Timed.within, limited]
  exact congrArg Timed.value (if_pos late)

/--
The accounts of the retries of a run. A step whose arguments miss nothing calls its tool until it
succeeds, at most once more often than it has retries left; its retry count goes up with every
further call, whether it succeeds tells whether one of the calls did, and its error is that of the
last call. A step whose arguments miss something calls nothing and keeps its retry count. The record
of a step tells how many calls there were, if there are not too many of them for a word.
-/
theorem retries_accounted {earlier : List Batch}
    (split : (plan.run settings environment).batches = earlier ++ batch :: later)
    (member : turn ∈ batch.turns)
    (resolves : (environment.resolve turn.step
      (plan.during environment earlier batch []).steps).value = .ok resolution) :
    ∃ before ∈ plan.steps, ∃ after ∈ (plan.run settings environment).plan.steps,
      before.id = turn.step.id ∧ after.id = turn.step.id ∧
      (resolution.missing = [] → turn.Retried settings
        (environment.answer settings (.ofStep before resolution.arguments)) before after) ∧
      (∀ index seconds, settings.stepTimeout? = some seconds →
        seconds.toNat * 1000 <
          (environment.invoke (.ofStep before resolution.arguments) index).delay →
        environment.answer settings (.ofStep before resolution.arguments) index =
          .timedOut seconds) ∧
      (resolution.missing ≠ [] → turn.calls = [] ∧ after.retryCount = before.retryCount) ∧
      ((resolution.missing = [] → before.attemptsAllowed settings < UInt32.size) →
        ∀ report, (plan.run settings environment).outcome = .ok report →
          ∃ record, report.record? turn.step.id = some record ∧
            record.attempts.toNat = turn.calls.length ∧ record.error = after.error) := by
  obtain ⟨before, beforeMember, rfl⟩ := Plan.exists_take_of_batches_run split member
  have batchMember : batch ∈ (plan.run settings environment).batches := by
    rw [split]
    exact List.mem_append_right _ List.mem_cons_self
  have turnMember := List.mem_flatMap.2 ⟨batch, batchMember, member⟩
  rw [Turn.step_take] at resolves
  refine ⟨before, beforeMember, _, Plan.marked_mem_run turnMember (Turn.settled_take resolves),
    by rw [Turn.step_take], Turn.id_marked _, Turn.retried_take settings resolves, ?late, ?missing,
    ?recorded⟩
  case late => exact fun index seconds limited late => Gateways.answer_of_late limited late
  case missing =>
    intro missing
    obtain ⟨silent, ending⟩ := Turn.take_of_missing resolves settings missing
    exact ⟨silent, (Turn.marked_of_ending ending).1⟩
  case recorded =>
    intro room report outcome
    obtain ⟨record, isRecord, attempts⟩ := Turn.exists_record _ resolves room
    exact ⟨record, Plan.record?_of_run_ok outcome batchMember member isRecord, attempts,
      (Turn.agrees_of_record? isRecord).error.symm⟩

/-- An upload that an earlier run has retried once, a probe without retries, and a stamp. -/
def uploadPlan : Plan :=
  { Plan.blank with
    id := "upload"
    steps :=
      [{ Step.new "upload" "send" .null with retryCount := 1, maxRetries := some 4 },
        Step.new "probe" "ping" .null,
        Step.new "stamp" "print" (.string "\x7b\x7bnobody\x7d\x7d")] }

/-- Calls may take a second. -/
def uploadSettings : Settings := { stepTimeoutSecs := 1 }

/-- A world in which the upload first takes too long, then fails, and then succeeds. -/
def uploadWorld : Environment :=
  Rehearsal.environment
    { context := {}
      scripts :=
        [("upload",
            [⟨5000, .success .null⟩, ⟨10, .failure "busy"⟩, ⟨10, .success (.string "done")⟩]),
          ("probe", [⟨10, .failure "no route"⟩])]
      cancelAt := none
      cuesResolver := false } "run" default

/-- The turn of a step in the only batch of the upload. -/
def uploadTurn (step : Step) : Turn :=
  Turn.take uploadSettings uploadWorld.toGateways
    (uploadPlan.withStatus ["upload", "probe", "stamp"] .running).steps
    { step with status := .running }

/-- The only batch of the upload. -/
def uploadBatch : Batch := { startsAt := 0, turns := uploadPlan.steps.map uploadTurn }

/-- The upload succeeds at its third call, and the stamp makes none. -/
theorem retries_accounted_upload :
    ∃ upload probe stamp report,
      (uploadPlan.run uploadSettings uploadWorld).batches = [uploadBatch] ∧
      uploadBatch.turns = [upload, probe, stamp] ∧
      (uploadPlan.run uploadSettings uploadWorld).outcome = .ok report ∧
      upload.calls.map (·.answer) =
        [.timedOut 1, .failure "busy", .success (.string "done")] ∧
      (∃ before ∈ uploadPlan.steps,
        ∃ after ∈ (uploadPlan.run uploadSettings uploadWorld).plan.steps,
          before.id = "upload" ∧ after.id = "upload" ∧
          upload.Retried uploadSettings
            (uploadWorld.answer uploadSettings (.ofStep before .null)) before after) ∧
      (∃ record, report.record? "upload" = some record ∧ record.attempts.toNat = 3) ∧
      stamp.calls = [] ∧
      ∃ record, report.record? "stamp" = some record ∧ record.attempts.toNat = 0 := by
  have batches : (uploadPlan.run uploadSettings uploadWorld).batches =
      [] ++ uploadBatch :: [] := by
    decide +kernel
  have answers : (uploadTurn uploadPlan.steps[0]).calls.map (·.answer) =
      [.timedOut 1, .failure "busy", .success (.string "done")] := by
    decide +kernel
  have silent : (uploadTurn uploadPlan.steps[2]).calls = [] := by decide +kernel
  have named : ∀ step, (uploadTurn step).step.id = step.id := by
    intro step
    rw [uploadTurn, Turn.step_take]
  have room : ∀ step ∈ uploadPlan.steps,
      step.attemptsAllowed uploadSettings < UInt32.size := by
    decide
  have seen : (uploadPlan.run uploadSettings uploadWorld).outcome.toOption.map
      (·.cancelled) = some false := by
    decide +kernel
  obtain ⟨report, outcome, -⟩ := Run.exists_of_seen seen
  obtain ⟨before, beforeMember, after, afterMember, same, afterSame, retried, -, -, recorded⟩ :=
    retries_accounted batches (show uploadTurn uploadPlan.steps[0] ∈ uploadBatch.turns from
      List.mem_map_of_mem (List.getElem_mem _)) rfl
  obtain ⟨record, isRecord, attempts, -⟩ :=
    recorded (fun _ => room before beforeMember) report outcome
  obtain ⟨last, lastMember, _, -, -, -, -, -, -, lastRecorded⟩ :=
    retries_accounted batches (show uploadTurn uploadPlan.steps[2] ∈ uploadBatch.turns from
      List.mem_map_of_mem (List.getElem_mem _)) rfl
  obtain ⟨lastRecord, isLastRecord, none, -⟩ :=
    lastRecorded (fun _ => room last lastMember) report outcome
  rw [named] at isLastRecord
  refine ⟨_, uploadTurn uploadPlan.steps[1], _, report, batches, rfl, outcome, answers,
    ⟨before, beforeMember, after, afterMember, same, afterSame, retried rfl⟩,
    ⟨record, isRecord, ?_⟩, silent, lastRecord, isLastRecord, ?_⟩
  · rw [attempts, ← List.length_map, answers]
    rfl
  · rw [none, silent]
    rfl

end PlanRunner
