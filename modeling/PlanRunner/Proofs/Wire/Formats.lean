import PlanRunner.Proofs.Wire.Answers
import PlanRunner.Proofs.Wire.Reports
import PlanRunner.Proofs.Wire.Survival

/-!
# The normal form of a text

A text can put a value in many ways: as an object or as an array, with fields in any order, without
those that have a default, with others that nobody knows. It is written in one way only, from which
the value is read as it was.
-/

namespace PlanRunner

/-- The kinds of values that are read and written. -/
inductive WireFormat where
  | stepStatus
  | planStatus
  | step
  | signals
  | metadata
  | plan
  | node
  | edge
  | graph
  | answer
  | action
  | replanBudget
  | conclusion
  | preservedStep
  | failedStep
  | scope
  | brief
  | stepRecord
  | report
  | settings
  deriving DecidableEq, Repr

namespace WireFormat

/-- The values of a format. -/
def Value : WireFormat → Type
  | .stepStatus => StepStatus
  | .planStatus => PlanStatus
  | .step => Step
  | .signals => Signals
  | .metadata => Metadata
  | .plan => Plan
  | .node => String
  | .edge => Edge
  | .graph => Graph
  | .answer => Answer
  | .action => Action
  | .replanBudget => ReplanBudget
  | .conclusion => Conclusion
  | .preservedStep => Replan.PreservedStep
  | .failedStep => Replan.FailedStep
  | .scope => List String × List Replan.FailedStep
  | .brief => Replan.Brief
  | .stepRecord => StepRecord
  | .report => Report
  | .settings => Settings

def read : (format : WireFormat) → Reader format.Value
  | .stepStatus => StepStatus.read
  | .planStatus => PlanStatus.read
  | .step => Step.read
  | .signals => Signals.read
  | .metadata => Metadata.read
  | .plan => Plan.read
  | .node => Graph.nodeRecord.read
  | .edge => Edge.record.read
  | .graph => Graph.read
  | .answer => Answer.read
  | .action => Action.read
  | .replanBudget => ReplanBudget.read
  | .conclusion => Conclusion.read
  | .preservedStep => Replan.PreservedStep.record.read
  | .failedStep => Replan.FailedStep.record.read
  | .scope => Replan.Brief.scopeRecord.read
  | .brief => Replan.Brief.read
  | .stepRecord => StepRecord.read
  | .report => Report.read
  | .settings => Settings.read

def write : (format : WireFormat) → format.Value → Json
  | .stepStatus => fun status : StepStatus => .string status.name
  | .planStatus => fun status : PlanStatus => .string status.name
  | .step => Step.toJson
  | .signals => Signals.toJson
  | .metadata => Metadata.toJson
  | .plan => Plan.toJson
  | .node => Graph.nodeToJson
  | .edge => Edge.toJson
  | .graph => Graph.toJson
  | .answer => Answer.toJson
  | .action => Action.toJson
  | .replanBudget => ReplanBudget.toJson
  | .conclusion => fun conclusion : Conclusion => .string conclusion.name
  | .preservedStep => Replan.PreservedStep.toJson
  | .failedStep => Replan.FailedStep.toJson
  | .scope => Replan.Brief.scopeToJson
  | .brief => Replan.Brief.toJson
  | .stepRecord => StepRecord.toJson
  | .report => Report.toJson
  | .settings => Settings.toJson

/-- The points in time that a value holds. -/
def times : (format : WireFormat) → format.Value → List Timestamp
  | .stepRecord => fun record : StepRecord => [record.completedAt]
  | .report => fun report : Report => report.executedSteps.map (·.completedAt)
  | _ => fun _ => []

/-- The part of a document that holds metadata. -/
def metadataPart? : WireFormat → Document → Option Document
  | .metadata, document => some document
  | .plan, document => Plan.record.part? "metadata" document
  | _, _ => none

/-- What stands in a text under a key of the metadata. -/
def metadataValue? (format : WireFormat) (key text : String) : Option (Except Fault Json) :=
  (format.metadataPart? (Document.ofText text).1).bind (·.latest? key)

variable {format : WireFormat} {document : Document} {value : format.Value} {text key : String}

/-- What has been read from a text is read back once it is written, if its times are. -/
theorem restores_of_read (shallow : document.depth ≤ Document.nestingLimit)
    (accepted : format.read .text document = .ok value)
    (readsBack : ∀ instant ∈ format.times value, instant.ReadsBack) :
    format.read.Restores Document.nestingLimit (format.write value) value := by
  cases format with
  | stepStatus => exact StepStatus.restores value
  | planStatus => exact PlanStatus.restores value
  | step => exact Step.isStable_read .text document value shallow accepted
  | signals => exact Signals.restores value
  | metadata => exact Metadata.isStable_read .text document value shallow accepted
  | plan => exact Plan.isStable_read .text document value shallow accepted
  | node => exact Graph.restores_node value
  | edge => exact Graph.restores_edge value
  | graph => exact Graph.restores value
  | answer => exact Answer.isStable_read .text document value shallow accepted
  | action => exact Action.isStable_read .text document value shallow accepted
  | replanBudget => exact ReplanBudget.restores value
  | conclusion => exact Conclusion.restores value
  | preservedStep =>
      exact Replan.PreservedStep.isStable_read .text document value shallow accepted
  | failedStep => exact Replan.FailedStep.restores value
  | scope => exact Replan.Brief.restores_scope value
  | brief => exact Replan.Brief.isStable_read .text document value shallow accepted
  | stepRecord =>
      exact StepRecord.restores_of_read shallow accepted (readsBack _ List.mem_cons_self)
  | report =>
      exact Report.restores_of_read shallow accepted fun record member =>
        readsBack _ (List.mem_map_of_mem member)
  | settings => exact Settings.isStable_read .text document value shallow accepted

/-- What stands under the unknown keys of its metadata depends on the value of a text only. -/
theorem metadataValue?_of_read {other : String} (unknown : key ∉ ["signals", "replans_count"])
    (accepted : Reader.ofText format.read text = .ok value)
    (again : Reader.ofText format.read other = .ok value) :
    format.metadataValue? key other = format.metadataValue? key text := by
  obtain ⟨document, whole, -, parsed⟩ := Reader.exists_of_ofText accepted
  obtain ⟨written, wholeAgain, -, parsedAgain⟩ := Reader.exists_of_ofText again
  rw [metadataValue?, metadataValue?, whole, wholeAgain]
  cases format with
  | metadata =>
      exact (Metadata.latest?_of_read unknown parsedAgain).trans
        (Metadata.latest?_of_read unknown parsed).symm
  | plan =>
      exact (Plan.latest?_of_read unknown parsedAgain).trans
        (Plan.latest?_of_read unknown parsed).symm
  | _ => rfl

end WireFormat

/--
A text that is accepted as a value of any format is written in a form from which the same value is
read, so that writing it a second time gives the same text. Of plans and of metadata on their own,
every key that the program does not know is kept with its value. It takes that the numbers and the
points in time of the value are read back from their texts.
-/
theorem wire_formats_are_stable (format : WireFormat) {text : String} {value : format.Value}
    (accepted : Reader.ofText format.read text = .ok value)
    (numbers : (format.write value).ReadsBack)
    (times : ∀ instant ∈ format.times value, instant.ReadsBack) :
    Reader.ofText format.read (format.write value).compact = .ok value ∧
    (Reader.ofText format.read (format.write value).compact).map
      (fun again => (format.write again).compact) = .ok (format.write value).compact ∧
    ∀ key ∉ ["signals", "replans_count"],
      format.metadataValue? key (format.write value).compact =
        format.metadataValue? key text := by
  obtain ⟨document, -, shallow, parsed⟩ := Reader.exists_of_ofText accepted
  have again := (WireFormat.restores_of_read shallow parsed times).ofText numbers
  refine ⟨again, ?_, fun key unknown => ?_⟩
  · rw [again, Except.map]
  · exact WireFormat.metadataValue?_of_read unknown accepted again

/-- A plan with a step as an array, a field that nobody knows, and a key of its metadata twice. -/
def voyageText : String :=
  "\x7b\"steps\":[[\"pack\",\"\",\"\",\"bag\",\x7b\"b\":1,\"a\":true\x7d,[\"y\",\"x\",\"y\"]]]," ++
    "\"id\":\"voyage\",\"colour\":\"red\",\"metadata\":\x7b\"owner\":\"ann\",\"owner\":[2]\x7d\x7d"

def voyage : Plan :=
  { Plan.blank with
    id := "voyage"
    steps :=
      [{ Step.blank with
          id := "pack", actionType := "", tool := "bag"
          arguments := .object [("a", .boolean true), ("b", Writer.word32 1)]
          dependencies := .ofList ["x", "y"] }]
    metadata := { extra := [("owner", .array [Writer.word32 2])] } }

/-- The record of a step as an array, with a time of another zone. -/
def landfallText : String :=
  "[\"land\",true,null,null,1,5,\"2024-05-01T12:00:00+02:00\"]"

def landfall : StepRecord :=
  ⟨"land", true, none, none, 1, 5, ⟨1714557600, 0⟩⟩

/-- A report as an array, with a record and a brief in it. -/
def logbookText : String :=
  "[\"needs_replan\",\"r\",\"voyage\",\"\",2,[\"land\"],[\"sail\"],[],[" ++ landfallText ++
    "],7,\"\",[[[\"land\",\"boat\",[3]]],[],\"calm\",\"\",[[\"land\"],[]]],null,false,[1,2],true]"

def logbook : Report :=
  { Report.blank with
    conclusion := .needsReplan
    runId := "r"
    planId := "voyage"
    totalSteps := 2
    successfulSteps := ["land"]
    failedSteps := ["sail"]
    executedSteps := [landfall]
    executionTime := 7
    brief := some
      { preserved := [⟨"land", "boat", .array [Writer.word32 3]⟩]
        primaryCause := "calm"
        successfulIds := ["land"] }
    replanBudget := ⟨1, 2⟩
    cancelled := true }

/-- An answer whose kind stands behind its content. -/
def soundingText : String :=
  "\x7b\"content\":\x7b\"depth\":3,\"coast\":[true]\x7d,\"type\":\"tool_result\"\x7d"

def sounding : Answer :=
  .success (.object [("coast", .array [.boolean true]), ("depth", Writer.word32 3)])

theorem wire_formats_are_stable_voyage :
    (Reader.ofText Plan.read voyageText = .ok voyage ∧
      Reader.ofText Plan.read voyage.toJson.compact = .ok voyage ∧
      WireFormat.plan.metadataValue? "owner" voyage.toJson.compact =
        some (.ok (.array [Writer.word32 2]))) ∧
    (Reader.ofText StepRecord.read landfallText = .ok landfall ∧
      Reader.ofText StepRecord.read landfall.toJson.compact = .ok landfall) ∧
    (Reader.ofText Report.read logbookText = .ok logbook ∧
      Reader.ofText Report.read logbook.toJson.compact = .ok logbook) ∧
    Reader.ofText Answer.read soundingText = .ok sounding ∧
      Reader.ofText Answer.read sounding.toJson.compact = .ok sounding := by
  have time : landfall.completedAt.ReadsBack := by
    unfold Timestamp.ReadsBack
    decide +kernel
  have result : ∀ value ∈ landfall.result, value.ReadsBack :=
    fun value held => absurd held (Option.not_mem_none value)
  refine ⟨?plan, ?record, ?report, ?answer⟩
  case plan =>
    have accepted : Reader.ofText Plan.read voyageText = .ok voyage := by decide +kernel
    have numbers : voyage.toJson.ReadsBack := by
      have values : voyage.values =
          [.object [("a", .boolean true), ("b", Writer.word32 1)], .array [Writer.word32 2]] := rfl
      refine Plan.readsBack_toJson ?_
      rw [values]
      simp [Json.ReadsBack, Json.ReadsBackFields, Json.ReadsBackItems, Json.readsBack_word32]
    have owner : WireFormat.plan.metadataValue? "owner" voyageText =
        some (.ok (.array [Writer.word32 2])) := by decide +kernel
    have noTimes : ∀ instant ∈ WireFormat.plan.times voyage, instant.ReadsBack :=
      fun instant member => absurd member List.not_mem_nil
    obtain ⟨again, -, entries⟩ := wire_formats_are_stable .plan accepted numbers noTimes
    exact ⟨accepted, again, (entries "owner" (by decide)).trans owner⟩
  case record =>
    have accepted : Reader.ofText StepRecord.read landfallText = .ok landfall := by decide +kernel
    have numbers : landfall.toJson.ReadsBack := StepRecord.readsBack_toJson result
    obtain ⟨again, -, -⟩ :=
      wire_formats_are_stable .stepRecord accepted numbers (List.forall_mem_singleton.2 time)
    exact ⟨accepted, again⟩
  case report =>
    have accepted : Reader.ofText Report.read logbookText = .ok logbook := by decide +kernel
    have numbers : logbook.toJson.ReadsBack := by
      refine Report.readsBack_toJson (List.forall_mem_singleton.2 result) fun brief held => ?_
      obtain rfl := Option.some.inj held
      exact List.forall_mem_singleton.2 ⟨Json.readsBack_word32 3, trivial⟩
    obtain ⟨again, -, -⟩ :=
      wire_formats_are_stable .report accepted numbers (List.forall_mem_singleton.2 time)
    exact ⟨accepted, again⟩
  case answer =>
    have accepted : Reader.ofText Answer.read soundingText = .ok sounding := by decide +kernel
    have numbers : sounding.toJson.ReadsBack :=
      ⟨trivial, ⟨⟨trivial, trivial⟩, Json.readsBack_word32 3, trivial⟩, trivial⟩
    obtain ⟨again, -, -⟩ := wire_formats_are_stable .answer accepted numbers
      fun instant member => absurd member List.not_mem_nil
    exact ⟨accepted, again⟩

end PlanRunner
