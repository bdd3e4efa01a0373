import PlanRunner.Proofs.Wire.Plain
import PlanRunner.Proofs.Wire.Plans

/-!
# Reports that are read back

A brief and the record of a step hold free values, which are fit for their places if they have been
read. A report holds both. What is written of a point in time is a text, and it is for the calendar
to read the same point back from it.
-/

namespace PlanRunner

variable {room : Nat} {origin : Origin} {document : Document}

namespace Replan

theorem PreservedStep.isStable_read :
    PreservedStep.record.read.IsStable (room + 1) PreservedStep.toJson := by
  intro origin document step shallow accepted
  have keeps : record.Keeps origin room fun step => Json.Fits room step.result := by
    simp only [Record.Keeps, record, List.forall_mem_cons]
    exact ⟨Field.keeps_of_store fun _ _ same => same, Field.keeps_of_store fun _ _ same => same,
      Field.keeps_of fun _ _ _ shallow read _ => Reader.fits_of_free shallow read, by simp⟩
  have fits : Json.Fits room step.result := keeps.read Json.fits_null shallow accepted
  refine Record.restores_of_fills (by decide) ?_
  exact .cons (Reader.restores_text step.id) <|
    .cons (Reader.restores_text step.tool) <|
    .cons (Reader.restores_free fits) <|
    .nil _

theorem Brief.readsBack_toJson {brief : Brief}
    (readsBack : ∀ step ∈ brief.preserved, step.result.ReadsBack) : brief.toJson.ReadsBack := by
  have preserved : ∀ step ∈ brief.preserved, step.toJson.ReadsBack :=
    fun step member => ⟨trivial, trivial, readsBack step member, trivial⟩
  have failed : ∀ step ∈ brief.failed, step.toJson.ReadsBack :=
    fun _ _ => ⟨trivial, trivial, trivial, trivial⟩
  exact ⟨Json.readsBack_list preserved, Json.readsBack_texts _, trivial, trivial,
    ⟨Json.readsBack_texts _, Json.readsBack_list failed, trivial⟩, trivial⟩

theorem Brief.isStable_read : Brief.read.IsStable (room + 4) Brief.toJson := by
  intro origin document brief shallow accepted
  have keeps : record.Keeps origin (room + 3) fun brief => ∀ step ∈ brief.preserved,
      PreservedStep.record.read.Restores (room + 2) step.toJson step := by
    simp only [Record.Keeps, record, List.forall_mem_cons]
    exact ⟨Field.keeps_of fun _ _ _ shallow read _ =>
        Reader.forall_of_list (PreservedStep.isStable_read origin) shallow read,
      Field.keeps_of_store fun _ _ same => same, Field.keeps_of_store fun _ _ same => same,
      Field.keeps_of_store fun _ _ same => same, Field.keeps_of_store fun _ _ same => same,
      by simp⟩
  have preserved := keeps.read (by simp [record]) shallow accepted
  refine Record.restores_of_fills (by decide) ?_
  exact .cons (Reader.restores_list preserved) <|
    .cons (Reader.restores_texts brief.patterns) <|
    .cons (Reader.restores_text brief.primaryCause) <|
    .cons (Reader.restores_text brief.suggestedStrategy) <|
    .cons (restores_scope (brief.successfulIds, brief.failed)) <|
    .nil _

end Replan

/-! ## Points in time -/

/-- The text of a point in time is read back as the same point. -/
def Timestamp.ReadsBack (instant : Timestamp) : Prop :=
  parse instant.render = .ok instant

theorem Timestamp.restores {instant : Timestamp} (readsBack : instant.ReadsBack) :
    Timestamp.read.Restores room (.string instant.render) instant := by
  refine ⟨Nat.zero_le _, fun origin => ?_⟩
  rw [ReadsBack] at readsBack
  simp only [read, Document.ofJson, readsBack]

/-! ## Records of steps -/

namespace StepRecord

theorem readsBack_toJson {record : StepRecord}
    (readsBack : ∀ value ∈ record.result, value.ReadsBack) : record.toJson.ReadsBack :=
  ⟨trivial, trivial, Json.readsBack_optional readsBack, Json.readsBack_optional fun _ _ => trivial,
    Json.readsBack_word32 _, Json.readsBack_word64 _, trivial, trivial⟩

theorem restores_of_read {record : StepRecord} (shallow : document.depth ≤ room + 1)
    (accepted : read origin document = .ok record) (time : record.completedAt.ReadsBack) :
    read.Restores (room + 1) record.toJson record := by
  have keeps : StepRecord.record.Keeps origin room fun record =>
      (Reader.optional Reader.free).Restores room
        (Writer.optional (fun value => value) record.result) record.result := by
    simp only [Record.Keeps, StepRecord.record, List.forall_mem_cons]
    exact ⟨Field.keeps_of_store fun _ _ same => same, Field.keeps_of_store fun _ _ same => same,
      Field.keeps_of fun document _ content shallow read _ =>
        Reader.isStable_optional_free origin document content shallow read,
      Field.keeps_of_store fun _ _ same => same, Field.keeps_of_store fun _ _ same => same,
      Field.keeps_of_store fun _ _ same => same, Field.keeps_of_store fun _ _ same => same,
      by simp⟩
  have result := keeps.read Reader.restores_optional_none shallow accepted
  refine Record.restores_of_fills (by decide) ?_
  exact .cons (Reader.restores_text record.stepId) <|
    .cons (Reader.restores_flag record.success) <|
    .cons result <|
    .cons (Reader.restores_optional Json.string_ne_null fun error _ =>
      Reader.restores_text error) <|
    .cons (Reader.restores_word32 record.attempts) <|
    .cons (Reader.restores_word64 record.duration) <|
    .cons (Timestamp.restores time) <|
    .nil _

end StepRecord

namespace Report

/-- The free values of a report are the results in its records and in its brief. -/
theorem readsBack_toJson {report : Report}
    (results : ∀ record ∈ report.executedSteps, ∀ value ∈ record.result, value.ReadsBack)
    (preserved : ∀ brief ∈ report.brief, ∀ step ∈ brief.preserved, step.result.ReadsBack) :
    report.toJson.ReadsBack := by
  have records : ∀ record ∈ report.executedSteps, record.toJson.ReadsBack :=
    fun record member => StepRecord.readsBack_toJson (results record member)
  refine Json.readsBackFields_iff.2 ?_
  simp only [List.forall_mem_cons]
  exact ⟨trivial, trivial, trivial, trivial, Json.readsBack_word64 _, Json.readsBack_texts _,
    Json.readsBack_texts _, Json.readsBack_texts _, Json.readsBack_list records,
    Json.readsBack_word64 _, trivial,
    Json.readsBack_optional fun brief held => Replan.Brief.readsBack_toJson (preserved brief held),
    Json.readsBack_optional fun signals _ => signals.readsBack_toJson, trivial,
    ⟨Json.readsBack_word32 _, Json.readsBack_word32 _, trivial⟩, trivial, by simp⟩

/-- A report as it is read: its brief is read back, and so are its records if their times are. -/
def Parsed (room : Nat) (report : Report) : Prop :=
  (∀ brief ∈ report.brief, Replan.Brief.read.Restores (room + 1) brief.toJson brief) ∧
    ∀ record ∈ report.executedSteps, record.completedAt.ReadsBack →
      StepRecord.read.Restores room record.toJson record

theorem keeps_parsed (origin : Origin) (room : Nat) :
    record.Keeps origin (room + 4) (Parsed (room + 3)) := by
  have records : ∀ {name presence}, (Field.of name presence (Reader.list StepRecord.read)
      fun (report : Report) executedSteps => { report with executedSteps }).Keeps origin
        (room + 4) (Parsed (room + 3)) := by
    intro name presence
    refine Field.keeps_of fun document report records shallow read held => ⟨held.1, ?_⟩
    exact Reader.forall_of_list (fun _ _ => StepRecord.restores_of_read) shallow read
  have brief : ∀ {name presence}, (Field.of name presence (Reader.optional Replan.Brief.read)
      fun (report : Report) brief => { report with brief }).Keeps origin (room + 4)
        (Parsed (room + 3)) := by
    intro name presence
    refine Field.keeps_of fun document report brief shallow read held => ⟨?_, held.2⟩
    exact Reader.forall_of_optional
      (fun brief => Replan.Brief.isStable_read origin document brief shallow) read
  simp only [Record.Keeps, record, List.forall_mem_cons]
  exact ⟨Field.keeps_of_store fun _ _ same => same, Field.keeps_of_store fun _ _ same => same,
    Field.keeps_of_store fun _ _ same => same, Field.keeps_of_store fun _ _ same => same,
    Field.keeps_of_store fun _ _ same => same, Field.keeps_of_store fun _ _ same => same,
    Field.keeps_of_store fun _ _ same => same, Field.keeps_of_store fun _ _ same => same, records,
    Field.keeps_of_store fun _ _ same => same, Field.keeps_of_store fun _ _ same => same, brief,
    Field.keeps_of_store fun _ _ same => same, Field.keeps_of_store fun _ _ same => same,
    Field.keeps_of_store fun _ _ same => same, Field.keeps_of_store fun _ _ same => same, by simp⟩

theorem restores_of_read {report : Report} (shallow : document.depth ≤ room + 5)
    (accepted : read origin document = .ok report)
    (times : ∀ record ∈ report.executedSteps, record.completedAt.ReadsBack) :
    read.Restores (room + 5) report.toJson report := by
  obtain ⟨brief, records⟩ : report.Parsed (room + 3) :=
    (keeps_parsed origin room).read ⟨nofun, nofun⟩ shallow accepted
  refine Record.restores_of_fills (by decide) ?_
  exact .cons (Conclusion.restores report.conclusion) <|
    .cons (Reader.restores_text report.runId) <|
    .cons (Reader.restores_text report.planId) <|
    .cons (Reader.restores_text report.strategy) <|
    .cons (Reader.restores_size report.totalSteps) <|
    .cons (Reader.restores_texts report.successfulSteps) <|
    .cons (Reader.restores_texts report.failedSteps) <|
    .cons (Reader.restores_texts report.skippedSteps) <|
    .cons (Reader.restores_list fun record member =>
      records record member (times record member)) <|
    .cons (Reader.restores_word64 report.executionTime) <|
    .cons (Reader.restores_text report.feedback) <|
    .cons (Reader.restores_optional (fun _ => Json.object_ne_null _) brief) <|
    .cons (Reader.restores_optional (fun _ => Json.object_ne_null _) fun signals _ =>
      signals.restores) <|
    .cons (Reader.restores_flag report.hasSignalsProblems) <|
    .cons (ReplanBudget.restores report.replanBudget) <|
    .cons (Reader.restores_flag report.cancelled) <|
    .nil _

end Report

end PlanRunner
