import PlanRunner.Json.Basic
import PlanRunner.Order.IdSet

/-!
# Writers

How the parts of records are written as JSON values.
-/

namespace PlanRunner.Writer

/-- Writes an integer of 32 bits. -/
def word32 (value : UInt32) : Json :=
  .number (.ofUInt32 value)

/-- Writes an integer of 64 bits. -/
def word64 (value : UInt64) : Json :=
  .number (.ofUInt64 value)

/-- Writes the items of a list in order. -/
def list {α : Type} (write : α → Json) (items : List α) : Json :=
  .array (items.map write)

def texts (items : List String) : Json :=
  list .string items

/-- Writes the members of a set in increasing order. -/
def idSet (set : IdSet) : Json :=
  texts set.ids

/-- Writes a value that may be missing, as null if it is. -/
def optional {α : Type} (write : α → Json) : Option α → Json
  | some value => write value
  | none => .null

end PlanRunner.Writer
