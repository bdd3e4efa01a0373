import PlanRunner.Wire.ReadError
import PlanRunner.Json.Parser
import PlanRunner.Order.IdSet

/-!
# Readers

A reader takes a document apart. It needs to know where the document comes from: a text may have
flaws, and it is not looked at beyond the point where the reader stops; a value is complete, and
what is left over of it counts as a wrong length.
-/

namespace PlanRunner

/-- Where a document comes from. -/
inductive Origin where
  | text
  | value
  deriving DecidableEq, Repr

/-- A reader of documents. -/
abbrev Reader (α : Type) := Origin → Document → Except ReadError α

namespace Reader

/-- What a document is called when it is not what was expected. -/
def found : Document → Except Fault Found
  | .null => .ok .null
  | .boolean value => .ok (.boolean value)
  | .number value => .ok (.ofNumber value)
  | .string value => .ok (.string value)
  | .array _ _ => .ok .sequence
  | .object _ _ => .ok .map
  | .unreadable read _ => .error read
  | .severed _ => .error .truncated

/-- The error for a document of the wrong kind. -/
def mismatch {α : Type} (expected : String) (document : Document) : Except ReadError α :=
  match found document with
  | .ok found => .error (.invalidType found expected)
  | .error fault => .error (.fault fault)

/-- Reads any value. -/
def free : Reader Json := fun _ document =>
  match document.toJson with
  | .ok value => .ok value
  | .error fault => .error (.fault fault)

/-- Passes a value over. -/
def ignore (document : Document) : Except ReadError Unit :=
  match document.skipFault with
  | none => .ok ()
  | some fault => .error (.fault fault)

def text : Reader String := fun _ document =>
  match document with
  | .string value => .ok value
  | other => mismatch "a string" other

/-- Reads a truth value. -/
def flag : Reader Bool := fun _ document =>
  match document with
  | .boolean value => .ok value
  | other => mismatch "a boolean" other

/-- Reads nothing at all, which is written as null. -/
def unit : Reader Unit := fun _ document =>
  match document with
  | .null => .ok ()
  | other => mismatch "unit" other

/-- Reads an integer from zero up to a bound. -/
def natural (bound : Nat) (expected : String) : Reader Nat := fun _ document =>
  match document with
  | .number (.integer value _) =>
      if 0 ≤ value ∧ value < bound then .ok value.toNat
      else .error (.invalidValue (.integer value) expected)
  | other => mismatch expected other

/-- Reads an integer that fits into a word of 32 bits. -/
def word32 : Reader UInt32 := fun origin document =>
  (natural 0x100000000 "u32" origin document).map UInt32.ofNat

/-- Reads an integer that fits into a word of 64 bits. -/
def word64 : Reader UInt64 := fun origin document =>
  (natural 0x10000000000000000 "u64" origin document).map UInt64.ofNat

/-- Reads a count, which fits into a word of 64 bits. -/
def size : Reader UInt64 := fun origin document =>
  (natural 0x10000000000000000 "usize" origin document).map UInt64.ofNat

/-- Reads a value that may be null instead. -/
def optional {α : Type} (reader : Reader α) : Reader (Option α) := fun origin document =>
  match document with
  | .null => .ok none
  | other => (reader origin other).map some

/-- Reads the items of a list in order. -/
def items {α : Type} (reader : Reader α) (origin : Origin) :
    List Document → Except ReadError (List α)
  | [] => .ok []
  | document :: rest => do
      let item ← reader origin document
      let rest ← items reader origin rest
      return item :: rest

def list {α : Type} (reader : Reader α) : Reader (List α) := fun origin document =>
  match document with
  | .array documents breach => do
      let values ← items reader origin documents
      match breach with
      | some breach => .error (.fault breach.next)
      | none => return values
  | other => mismatch "a sequence" other

/-- Reads a list of identifiers as a set. -/
def idSet : Reader IdSet := fun origin document =>
  (list text origin document).map IdSet.ofList

/-- Reads a text from its first to its last character. -/
def ofText {α : Type} (reader : Reader α) (text : String) : Except ReadError α := do
  let (document, behind) := Document.ofText text
  let value ← reader .text document
  match behind with
  | some fault => .error (.fault fault)
  | none => return value

def ofJson {α : Type} (reader : Reader α) (value : Json) : Except ReadError α :=
  reader .value (.ofJson value)

end Reader

end PlanRunner
