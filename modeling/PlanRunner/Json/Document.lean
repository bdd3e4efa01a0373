import PlanRunner.Json.Basic

/-!
# Documents

A document is what a reader meets when it goes through a JSON text from left to right: the values in
the order of the text, with repeated fields, and with the places where the text stops being JSON
kept as parts of the tree. A reader that wants a certain shape can therefore report whichever comes
first, a value of the wrong shape or a flaw of the text.

Some values are well formed but cannot be held: numerals that are too large, strings with half of a
surrogate pair, containers nested too deeply. They are flaws for a reader that needs the value, and
none for one that passes it over.
-/

namespace PlanRunner

/-- Why a text is no JSON: it ends too early, or something stands where it cannot stand. -/
inductive Fault where
  | truncated
  | malformed
  deriving DecidableEq, Repr

/--
The point at which a container stops being well formed, as three readers see it: one that wants
another element, one that wants the container to close, and one that passes the container over.
-/
structure Breach where
  next : Fault
  close : Fault
  skip : Option Fault
  deriving DecidableEq, Repr

/-- A JSON text as it is met from left to right. -/
inductive Document where
  | null
  | boolean (value : Bool)
  | number (value : Number)
  | string (value : String)
  | array (items : List Document) (breach : Option Breach)
  | object (fields : List (String × Document)) (breach : Option Breach)
  /-- A value that cannot be read; `skip` tells whether it can be passed over. -/
  | unreadable (read : Fault) (skip : Option Fault)
  /-- A literal or a numeral that the end of the text cuts off. -/
  | severed (skip : Fault)

namespace Document

instance : Inhabited Document := ⟨.null⟩

mutual

/-- The document of a value, which has no flaws. -/
def ofJson : Json → Document
  | .null => .null
  | .boolean value => .boolean value
  | .number value => .number value
  | .string value => .string value
  | .array items => .array (ofItems items) none
  | .object fields => .object (ofFields fields) none

def ofItems : List Json → List Document
  | [] => []
  | item :: rest => ofJson item :: ofItems rest

def ofFields : List (String × Json) → List (String × Document)
  | [] => []
  | (key, value) :: rest => (key, ofJson value) :: ofFields rest

end

mutual

/-- The value of a document, with the last of repeated fields. -/
def toJson : Document → Except Fault Json
  | .null => .ok .null
  | .boolean value => .ok (.boolean value)
  | .number value => .ok (.number value)
  | .string value => .ok (.string value)
  | .array items breach => do
      let items ← itemsToJson items
      match breach with
      | some breach => .error breach.next
      | none => .ok (.array items)
  | .object fields breach => do
      let fields ← fieldsToJson fields
      match breach with
      | some breach => .error breach.next
      | none => .ok (.object (Keyed.ofList fields))
  | .unreadable read _ => .error read
  | .severed _ => .error .truncated

def itemsToJson : List Document → Except Fault (List Json)
  | [] => .ok []
  | item :: rest => do
      let item ← toJson item
      let rest ← itemsToJson rest
      .ok (item :: rest)

def fieldsToJson : List (String × Document) → Except Fault (List (String × Json))
  | [] => .ok []
  | (key, value) :: rest => do
      let value ← toJson value
      let rest ← fieldsToJson rest
      .ok ((key, value) :: rest)

end

mutual

/-- The flaw met by a reader that passes the document over, if there is one. -/
def skipFault : Document → Option Fault
  | .array items breach => itemsSkipFault items <|> breach.bind (·.skip)
  | .object fields breach => fieldsSkipFault fields <|> breach.bind (·.skip)
  | .unreadable _ skip => skip
  | .severed skip => some skip
  | _ => none

/-- The first flaw met by a reader that passes over a list of documents. -/
def itemsSkipFault : List Document → Option Fault
  | [] => none
  | item :: rest => skipFault item <|> itemsSkipFault rest

/-- The first flaw met by a reader that passes over a list of fields. -/
def fieldsSkipFault : List (String × Document) → Option Fault
  | [] => none
  | (_, value) :: rest => skipFault value <|> fieldsSkipFault rest

end

end Document

end PlanRunner
