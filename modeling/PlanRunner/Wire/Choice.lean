import PlanRunner.Wire.Reader

/-!
# Choices

A value out of a few named ones is written as its name, or as an object with the name as its only
key and null as its value. Both forms are read, and the name is written.
-/

namespace PlanRunner

/-- The values to choose from, with their names. -/
abbrev Choice (α : Type) := List (String × α)

namespace Choice

variable {α : Type}

def named (choice : Choice α) (name : String) : Except ReadError α :=
  match choice.lookup name with
  | some value => .ok value
  | none => .error (.unknownVariant name (choice.map Prod.fst))

/-- Reads a value by its name. -/
def read (choice : Choice α) : Reader α := fun origin document =>
  match document with
  | .string name => choice.named name
  | .object ((name, content) :: rest) breach => do
      if origin = .value ∧ !rest.isEmpty then
        throw (.invalidValue .map "map with a single key")
      let value ← choice.named name
      Reader.unit origin content
      match rest, breach with
      | _ :: _, _ => .error (.fault .malformed)
      | [], some breach => .error (.fault breach.close)
      | [], none => return value
  | .object [] breach =>
      match origin, breach with
      | .value, _ => .error (.invalidValue .map "map with a single key")
      | .text, some breach => .error (.fault breach.next)
      | .text, none => .error (.fault .malformed)
  | .unreadable fault _ => .error (.fault fault)
  | other =>
      match origin with
      | .text => .error (.fault .malformed)
      | .value => Reader.mismatch "string or map" other

end Choice

end PlanRunner
