import PlanRunner.Json.Printer
import PlanRunner.Order.FirstSeen
import PlanRunner.Plan.Step
import PlanRunner.Template.Reference

/-!
# Resolution

The references in the arguments of a step are replaced by results of earlier steps. A text that is
nothing but one reference takes the value itself; inside a longer text the value is written out.
References without a value stay as they are, and are reported as missing.
-/

namespace PlanRunner

/-- Arguments with their references replaced, and the labels of the references without a value. -/
structure Resolution where
  arguments : Json
  missing : List String
  deriving DecidableEq

/-- Whether every reference had a value. -/
def Resolution.isComplete (resolution : Resolution) : Bool :=
  resolution.missing.isEmpty

namespace Reference

/-- The name of the input of a run, unless a step bears it. -/
def inputName : String := "input"

/-- The position in a list that a segment names, if it is made of digits. -/
def position? (segment : String) : Option Nat :=
  if segment.toList.all Char.isDigit && !segment.isEmpty then
    some (Numeral.digitsValue segment.toList)
  else none

/-- The part of a value at the end of a path. -/
def follow : List String → Json → Option Json
  | [], value => some value
  | segment :: path, value =>
      match value with
      | .object fields => (fields.lookup segment).bind (follow path)
      | .array items =>
          match position? segment with
          | some position => items[position]?.bind (follow path)
          | none => none
      | _ => none

/-- The value that a path starts from: the result of a step that succeeded, or the input. -/
def root? (steps : List Step) (input : String) (id : String) : Option Json :=
  match steps.find? (·.id == id) with
  | some step => if step.status = .succeeded then step.result else none
  | none => if id = inputName then some (.string input) else none

def value? (steps : List Step) (input : String) (reference : Reference) : Option Json :=
  (root? steps input reference.id).bind (follow reference.path)

end Reference

/-- How references get their values. -/
abbrev Lookup := Reference → Option Json

namespace Piece

/-- A value inside a longer text. -/
def valueText : Json → String
  | .string text => text
  | value => value.compact

/-- The text that takes the place of a piece. -/
def filled (lookup : Lookup) : Piece → String
  | .literal character => character.toString
  | .reference source target =>
      match lookup target with
      | some value => valueText value
      | none => String.ofList source

/-- The label of a piece that has no value. -/
def missing? (lookup : Lookup) : Piece → Option String
  | .literal _ => none
  | .reference _ target => if (lookup target).isSome then none else some target.label

end Piece

namespace Template

/-- The value that takes the place of a text. -/
def fillText (lookup : Lookup) (text : String) : Json :=
  match Piece.split text.toList with
  | [.reference _ target] => (lookup target).getD (.string text)
  | pieces => .string (String.join (pieces.map (·.filled lookup)))

/-- The labels in a text that have no value, in order. -/
def missingInText (lookup : Lookup) (text : String) : List String :=
  (Piece.split text.toList).filterMap (·.missing? lookup)

mutual

/-- Replaces the references in all texts of a value. Keys stay as they are. -/
def fill (lookup : Lookup) : Json → Json
  | .string text => fillText lookup text
  | .array items => .array (fillItems lookup items)
  | .object fields => .object (fillFields lookup fields)
  | other => other

/-- Replaces the references in a list of values. -/
def fillItems (lookup : Lookup) : List Json → List Json
  | [] => []
  | item :: rest => fill lookup item :: fillItems lookup rest

/-- Replaces the references in a list of fields. -/
def fillFields (lookup : Lookup) : List (String × Json) → List (String × Json)
  | [] => []
  | (key, value) :: rest => (key, fill lookup value) :: fillFields lookup rest

end

mutual

/-- The labels in a value that have no value, in order and with repetitions. -/
def missingIn (lookup : Lookup) : Json → List String
  | .string text => missingInText lookup text
  | .array items => missingInItems lookup items
  | .object fields => missingInFields lookup fields
  | _ => []

/-- The labels in a list of values that have no value. -/
def missingInItems (lookup : Lookup) : List Json → List String
  | [] => []
  | item :: rest => missingIn lookup item ++ missingInItems lookup rest

/-- The labels in a list of fields that have no value. -/
def missingInFields (lookup : Lookup) : List (String × Json) → List String
  | [] => []
  | (_, value) :: rest => missingIn lookup value ++ missingInFields lookup rest

end

/-- Replaces the references in arguments by what the steps and the input have to offer. -/
def resolve (steps : List Step) (input : String) (arguments : Json) : Resolution :=
  let lookup := Reference.value? steps input
  { arguments := fill lookup arguments
    missing := FirstSeen.ofList (missingIn lookup arguments) }

end Template

end PlanRunner
