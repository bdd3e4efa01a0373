import PlanRunner.Plan.Basic
import PlanRunner.Wire.Choice
import PlanRunner.Wire.Record
import PlanRunner.Wire.Writer

/-!
# Written plans

How plans, their steps, signals and metadata are read from documents and written as JSON. Everything
is written, in the order in which the fields are declared.
-/

namespace PlanRunner

/-- The statuses of a step by name. -/
def StepStatus.choice : Choice StepStatus :=
  StepStatus.all.map fun status => (status.name, status)

def StepStatus.read : Reader StepStatus :=
  StepStatus.choice.read

/-- The statuses of a plan by name. -/
def PlanStatus.choice : Choice PlanStatus :=
  PlanStatus.all.map fun status => (status.name, status)

def PlanStatus.read : Reader PlanStatus :=
  PlanStatus.choice.read

namespace Step

/-- A step has to have an identifier and a tool. -/
def record : Record Step where
  name := "struct PlanStep"
  draft := blank
  fields :=
    [ .of "id" .required Reader.text fun step id => { step with id },
      .of "description" .defaulted Reader.text fun step description => { step with description },
      .of "action_type" .defaulted Reader.text fun step actionType => { step with actionType },
      .of "tool" .required Reader.text fun step tool => { step with tool },
      .of "arguments" .defaulted Reader.free fun step arguments => { step with arguments },
      .of "dependencies" .defaulted Reader.idSet fun step dependencies =>
        { step with dependencies },
      .of "status" .defaulted StepStatus.read fun step status => { step with status },
      .of "optional" .defaulted Reader.flag fun step optional => { step with optional },
      .of "parallel" .defaulted Reader.flag fun step parallel => { step with parallel },
      .of "retry_count" .defaulted Reader.word32 fun step retryCount => { step with retryCount },
      .of "max_retries" .defaulted (Reader.optional Reader.word32) fun step maxRetries =>
        { step with maxRetries },
      .of "result" .defaulted (Reader.optional Reader.free) fun step result =>
        { step with result },
      .of "error" .defaulted (Reader.optional Reader.text) fun step error =>
        { step with error } ]

def read : Reader Step :=
  record.read

def toJson (step : Step) : Json :=
  .object
    [ ("id", .string step.id),
      ("description", .string step.description),
      ("action_type", .string step.actionType),
      ("tool", .string step.tool),
      ("arguments", step.arguments),
      ("dependencies", Writer.idSet step.dependencies),
      ("status", .string step.status.name),
      ("optional", .boolean step.optional),
      ("parallel", .boolean step.parallel),
      ("retry_count", Writer.word32 step.retryCount),
      ("max_retries", Writer.optional Writer.word32 step.maxRetries),
      ("result", Writer.optional (fun value => value) step.result),
      ("error", Writer.optional .string step.error) ]

end Step

namespace Signals

def record : Record Signals where
  name := "struct PlanSignals"
  draft := {}
  fields :=
    [ .of "needs" .defaulted (Reader.list Reader.text) fun signals needs =>
        { signals with needs },
      .of "suggested_next_step" .defaulted (Reader.optional Reader.text)
        fun signals suggestedNextStep => { signals with suggestedNextStep },
      .of "errors" .defaulted (Reader.list Reader.text) fun signals errors =>
        { signals with errors },
      .of "no_discovery_path" .defaulted (Reader.list Reader.text)
        fun signals noDiscoveryPath => { signals with noDiscoveryPath } ]

def read : Reader Signals :=
  record.read

def toJson (signals : Signals) : Json :=
  .object
    [ ("needs", Writer.texts signals.needs),
      ("suggested_next_step", Writer.optional .string signals.suggestedNextStep),
      ("errors", Writer.texts signals.errors),
      ("no_discovery_path", Writer.texts signals.noDiscoveryPath) ]

end Signals

namespace Metadata

/-- The metadata that the program knows; all other keys are kept as they are. -/
def knownFields : List (Field Metadata) :=
  [ .of "signals" .defaulted (Reader.optional Signals.read) fun metadata signals =>
      { metadata with signals },
    .of "replans_count" .defaulted Reader.word32 fun metadata replansCount =>
      { metadata with replansCount } ]

/-- Reads the entries of metadata in order, given the known keys that were there before. -/
def readEntries (origin : Origin) :
    List (String × Document) → Metadata → List String → Except ReadError Metadata
  | [], metadata, _ => .ok metadata
  | (key, document) :: rest, metadata, seen =>
      match knownFields.find? (·.name == key) with
      | some field => do
          if key ∈ seen then throw (.duplicateField key)
          let metadata ← field.fill origin document metadata
          readEntries origin rest metadata (key :: seen)
      | none => do
          let value ← Reader.free origin document
          readEntries origin rest
            { metadata with extra := Keyed.insert key value metadata.extra } seen

/-- Reads metadata, which are always an object. -/
def read : Reader Metadata := fun origin document =>
  match document with
  | .object entries breach => do
      let metadata ← readEntries origin entries {} []
      match breach with
      | some breach => .error (.fault breach.next)
      | none => return metadata
  | other => Reader.mismatch "struct PlanMetadata" other

/-- Writes metadata, with the unknown keys after the known ones. -/
def toJson (metadata : Metadata) : Json :=
  .object
    (("signals", Writer.optional Signals.toJson metadata.signals) ::
      ("replans_count", Writer.word32 metadata.replansCount) :: metadata.extra)

end Metadata

namespace Plan

/-- A plan has to have an identifier and steps, though there may be none of them. -/
def record : Record Plan where
  name := "struct ExecutionPlan"
  draft := blank
  fields :=
    [ .of "id" .required Reader.text fun plan id => { plan with id },
      .of "strategy" .defaulted Reader.text fun plan strategy => { plan with strategy },
      .of "goal" .defaulted Reader.text fun plan goal => { plan with goal },
      .of "reasoning" .defaulted Reader.text fun plan reasoning => { plan with reasoning },
      .of "steps" .required (Reader.list Step.read) fun plan steps => { plan with steps },
      .of "status" .defaulted PlanStatus.read fun plan status => { plan with status },
      .of "metadata" .defaulted Metadata.read fun plan metadata => { plan with metadata } ]

def read : Reader Plan :=
  record.read

def toJson (plan : Plan) : Json :=
  .object
    [ ("id", .string plan.id),
      ("strategy", .string plan.strategy),
      ("goal", .string plan.goal),
      ("reasoning", .string plan.reasoning),
      ("steps", Writer.list Step.toJson plan.steps),
      ("status", .string plan.status.name),
      ("metadata", plan.metadata.toJson) ]

end Plan

end PlanRunner
