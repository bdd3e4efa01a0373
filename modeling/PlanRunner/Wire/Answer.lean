import PlanRunner.Run.Action
import PlanRunner.Wire.Record
import PlanRunner.Wire.Writer

/-!
# Written answers and actions

An answer is written as an object whose field `type` tells what its other field is. Since that field
may stand anywhere, the others are read as they are before they are looked at. An array of the type
and the other field is read too.
-/

namespace PlanRunner

namespace Answer

/-- The kind of an answer. -/
inductive Kind where
  | toolResult
  | error
  deriving DecidableEq, Repr

def Kind.named (name : String) : Except ReadError Kind :=
  match name with
  | "tool_result" => .ok .toolResult
  | "error" => .ok .error
  | _ => .error (.unknownVariant name ["tool_result", "error"])

def Kind.read : Document → Except ReadError Kind
  | .string name => named name
  | other => Reader.mismatch "variant identifier" other

def record : Kind → Record Answer
  | .toolResult =>
      { name := "struct variant ActionResult::ToolResult"
        draft := .success .null
        fields := [.of "content" .required Reader.free fun _ content => .success content] }
  | .error =>
      { name := "struct variant ActionResult::Error"
        draft := .failure ""
        fields := [.of "message" .required Reader.text fun _ message => .failure message] }

/-- Reads the fields of an answer in order: its kind, and all others as they are. -/
def readEntries :
    List (String × Document) → Option Kind → List (String × Json) →
      Except ReadError (Option Kind × List (String × Json))
  | [], kind, entries => .ok (kind, entries)
  | (key, document) :: rest, kind, entries =>
      if key = "type" then
        if kind.isSome then .error (.duplicateField "type")
        else do
          let kind ← Kind.read document
          readEntries rest (some kind) entries
      else do
        let value ← Reader.free .value document
        readEntries rest kind (entries ++ [(key, value)])

/-- Reads the items of an answer after its kind. -/
def readItems (kind : Kind) (items : List Json) : Except ReadError Answer :=
  match items with
  | [] => .error (.invalidLength 0 (record kind).sequenceText)
  | [item] => (record kind).read .value (.ofJson (.array [item]))
  | item :: rest => do
      let _ ← (record kind).read .value (.ofJson (.array [item]))
      .error (.invalidLength (rest.length + 1) "1 element in sequence")

def read : Reader Answer := fun origin document =>
  match document with
  | .object entries breach => do
      let (kind, entries) ← readEntries entries none []
      match breach with
      | some breach => .error (.fault breach.next)
      | none =>
          match kind with
          | none => .error (.missingField "type")
          | some kind => (record kind).read .value (.object (Document.ofFields entries) none)
  | .array [] (some breach) => .error (.fault breach.next)
  | .array [] none => .error (.missingField "type")
  | .array (first :: rest) breach => do
      let kind ← Kind.read first
      let items ← Reader.items Reader.free origin rest
      match breach with
      | some breach => .error (.fault breach.next)
      | none => readItems kind items
  | other => Reader.mismatch "internally tagged enum ActionResult" other

def toJson : Answer → Json
  | .success content => .object [("type", .string "tool_result"), ("content", content)]
  | .failure message => .object [("type", .string "error"), ("message", .string message)]

end Answer

namespace Action

/-- An action is written with all of its fields. -/
def record : Record Action where
  name := "struct PlannedAction"
  draft := ⟨"", "", "", .null⟩
  fields :=
    [ .of "step_id" .required Reader.text fun action stepId => { action with stepId },
      .of "action_type" .required Reader.text fun action actionType =>
        { action with actionType },
      .of "tool" .required Reader.text fun action tool => { action with tool },
      .of "arguments" .required Reader.free fun action arguments =>
        { action with arguments } ]

def read : Reader Action :=
  record.read

def toJson (action : Action) : Json :=
  .object
    [ ("step_id", .string action.stepId),
      ("action_type", .string action.actionType),
      ("tool", .string action.tool),
      ("arguments", action.arguments) ]

end Action

end PlanRunner
