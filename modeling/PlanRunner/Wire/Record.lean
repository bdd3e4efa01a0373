import PlanRunner.Wire.Reader

/-!
# Records

A record is written as an object, or as an array of its fields in order. In an object the fields may
stand in any order and unknown ones are passed over; a field that stands twice is an error, and so
is a missing one unless it has a default. In an array only fields with a default may be left out,
and only at the end.
-/

namespace PlanRunner

/-- Whether a field may be missing. -/
inductive Presence where
  /-- The field is always there. -/
  | required
  /-- An object may do without the field, which then counts as null. -/
  | nullable
  /-- The field has a default, in an object and in an array. -/
  | defaulted
  deriving DecidableEq, Repr

/-- A field of a record: its name and how its value is read and put into place. -/
structure Field (α : Type) where
  name : String
  presence : Presence
  fill : Origin → Document → α → Except ReadError α

/-- A field from a reader of its value and the way to store it. -/
def Field.of {α β : Type} (name : String) (presence : Presence) (reader : Reader β)
    (store : α → β → α) : Field α :=
  { name, presence
    fill := fun origin document draft => (reader origin document).map (store draft) }

/-- How a record is read: what it is called, its fields in order, and a draft to fill in. -/
structure Record (α : Type) where
  name : String
  draft : α
  fields : List (Field α)

namespace Record

variable {α : Type}

/-- Fills in fields in the order of the document, and tells which ones were there. -/
def fillFields (record : Record α) (origin : Origin) :
    List (String × Document) → α → List String → Except ReadError (α × List String)
  | [], draft, seen => .ok (draft, seen)
  | (key, document) :: rest, draft, seen =>
      match record.fields.find? (·.name == key) with
      | some field => do
          if key ∈ seen then throw (.duplicateField key)
          let draft ← field.fill origin document draft
          fillFields record origin rest draft (key :: seen)
      | none => do
          Reader.ignore document
          fillFields record origin rest draft seen

/-- The first field that is required and was not there. -/
def missing? (record : Record α) (seen : List String) : Option String :=
  (record.fields.find? fun field => field.presence == .required && field.name ∉ seen).map
    (·.name)

/-- What an array for the record is expected to be. -/
def sequenceText (record : Record α) : String :=
  record.name ++ " with " ++ toString record.fields.length ++
    (if record.fields.length = 1 then " element" else " elements")

/-- Fills in the fields in order from the items of an array. -/
def fillItems (record : Record α) (origin : Origin) (count : Nat) (breach : Option Breach) :
    Nat → List (Field α) → List Document → α → Except ReadError α
  | _, [], [], draft =>
      match breach with
      | some breach => .error (.fault breach.close)
      | none => .ok draft
  | _, [], _ :: _, _ =>
      match origin with
      | .text => .error (.fault .malformed)
      | .value => .error (.invalidLength count "fewer elements in array")
  | index, field :: fields, document :: documents, draft => do
      let draft ← field.fill origin document draft
      fillItems record origin count breach (index + 1) fields documents draft
  | index, field :: fields, [], draft =>
      match breach with
      | some breach => .error (.fault breach.next)
      | none =>
          if field.presence = .defaulted then
            fillItems record origin count breach (index + 1) fields [] draft
          else .error (.invalidLength index record.sequenceText)

def read (record : Record α) : Reader α := fun origin document =>
  match document with
  | .object fields breach => do
      let (draft, seen) ← record.fillFields origin fields record.draft []
      match breach with
      | some breach => .error (.fault breach.next)
      | none =>
          match record.missing? seen with
          | some name => .error (.missingField name)
          | none => return draft
  | .array items breach =>
      record.fillItems origin items.length breach 0 record.fields items record.draft
  | other => Reader.mismatch record.name other

end Record

end PlanRunner
