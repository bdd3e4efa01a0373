import PlanRunner.Json.Lexeme

/-!
# Parsing JSON

A text becomes a document, whatever it holds: where it stops being JSON the document says so. The
parser recurses on a bound that the steps taken for one character never exhaust.
-/

namespace PlanRunner.Document

open Lexeme (Scan skipSpace)

/-- The deepest nesting of arrays and objects that a reader follows. -/
def nestingLimit : Nat := 127

/-- The flaw that ends a text, if there is one. -/
def faultOf {α : Type} : Except Fault α → Option Fault
  | .error fault => some fault
  | .ok _ => none

/-- A word of the text as a document. -/
def ofScan {α : Type} (build : α → Document) (scan : Scan α) :
    Document × Except Fault (List Char) :=
  match scan.value with
  | .ok value => (build value, scan.after)
  | .error fault => (.unreadable fault (faultOf scan.after), scan.after)

def ofNumeral (scan : Scan Number) : Document × Except Fault (List Char) :=
  match scan.value, scan.after with
  | .error .truncated, .error skip => (.severed skip, .error skip)
  | _, _ => ofScan .number scan

/-- A flaw that every reader meets at once. -/
def flaw (fault : Fault) : Document × Except Fault (List Char) :=
  (.unreadable fault (some fault), .error fault)

/-- A flaw between the elements of a container that every reader meets at once. -/
def Breach.plain (fault : Fault) : Breach := ⟨fault, fault, some fault⟩

/-- A container, which cannot be read if it is nested too deeply. -/
def contain (level : Nat) (container : Document) (after : Except Fault (List Char)) : Document :=
  if level < nestingLimit then container else .unreadable .malformed (faultOf after)

def ofLiteral (value : Document) : Except Fault (List Char) → Document × Except Fault (List Char)
  | .ok rest => (value, .ok rest)
  | .error .truncated => (.severed .truncated, .error .truncated)
  | .error .malformed => flaw .malformed

mutual

/-- The value at the start of a text, inside so many containers, and what follows it. -/
def parseValue : Nat → Nat → List Char → Document × Except Fault (List Char)
  | 0, _, _ => flaw .malformed
  | fuel + 1, level, characters =>
      match skipSpace characters with
      | [] => flaw .truncated
      | '"' :: rest => ofScan .string (Lexeme.string rest)
      | '[' :: rest =>
          let (items, breach, after) := parseItems fuel level true rest
          (contain level (.array items breach) after, after)
      | '\x7b' :: rest =>
          let (fields, breach, after) := parseFields fuel level true rest
          (contain level (.object fields breach) after, after)
      | 'n' :: rest => ofLiteral .null (Lexeme.literal ['u', 'l', 'l'] rest)
      | 't' :: rest => ofLiteral (.boolean true) (Lexeme.literal ['r', 'u', 'e'] rest)
      | 'f' :: rest => ofLiteral (.boolean false) (Lexeme.literal ['a', 'l', 's', 'e'] rest)
      | character :: rest =>
          if character = '-' || character.isDigit then
            ofNumeral (Lexeme.number (character :: rest))
          else flaw .malformed

/-- The items of an array from the start of the text on, after the first one or before it. -/
def parseItems :
    Nat → Nat → Bool → List Char → List Document × Option Breach × Except Fault (List Char)
  | 0, _, _, _ => ([], some (Breach.plain .malformed), .error .malformed)
  | fuel + 1, level, first, characters =>
      match skipSpace characters with
      | [] => ([], some (Breach.plain .truncated), .error .truncated)
      | ']' :: rest => ([], none, .ok rest)
      | ',' :: rest =>
          if first then parseItem fuel level (',' :: rest)
          else
            match skipSpace rest with
            | [] => ([], some ⟨.truncated, .malformed, some .truncated⟩, .error .truncated)
            | ']' :: _ => ([], some (Breach.plain .malformed), .error .malformed)
            | rest => parseItem fuel level rest
      | rest =>
          if first then parseItem fuel level rest
          else ([], some (Breach.plain .malformed), .error .malformed)

/-- An item of an array and those that follow it. -/
def parseItem :
    Nat → Nat → List Char → List Document × Option Breach × Except Fault (List Char)
  | 0, _, _ => ([], some (Breach.plain .malformed), .error .malformed)
  | fuel + 1, level, characters =>
      let (item, after) := parseValue fuel (level + 1) characters
      match after with
      | .error fault => ([item], none, .error fault)
      | .ok rest =>
          let (items, breach, after) := parseItems fuel level false rest
          (item :: items, breach, after)

/-- The fields of an object from the start of the text on, after the first one or before it. -/
def parseFields :
    Nat → Nat → Bool → List Char →
      List (String × Document) × Option Breach × Except Fault (List Char)
  | 0, _, _, _ => ([], some (Breach.plain .malformed), .error .malformed)
  | fuel + 1, level, first, characters =>
      match skipSpace characters with
      | [] => ([], some (Breach.plain .truncated), .error .truncated)
      | '\x7d' :: rest => ([], none, .ok rest)
      | ',' :: rest =>
          if first then ([], some (Breach.plain .malformed), .error .malformed)
          else
            match skipSpace rest with
            | [] => ([], some ⟨.truncated, .malformed, some .truncated⟩, .error .truncated)
            | '"' :: rest => parseField fuel level rest
            | _ => ([], some (Breach.plain .malformed), .error .malformed)
      | '"' :: rest =>
          if first then parseField fuel level rest
          else ([], some (Breach.plain .malformed), .error .malformed)
      | _ => ([], some (Breach.plain .malformed), .error .malformed)

/-- A field whose opening quote has been passed, and those that follow it. -/
def parseField :
    Nat → Nat → List Char → List (String × Document) × Option Breach × Except Fault (List Char)
  | 0, _, _ => ([], some (Breach.plain .malformed), .error .malformed)
  | fuel + 1, level, characters =>
      let key := Lexeme.string characters
      match key.after with
      | .error fault =>
          let read := (faultOf key.value).getD fault
          ([], some ⟨read, .malformed, some fault⟩, .error fault)
      | .ok rest =>
          let (value, after) :=
            match skipSpace rest with
            | [] => flaw .truncated
            | ':' :: rest => parseValue fuel (level + 1) rest
            | _ => flaw .malformed
          let (fields, breach, after) :=
            match after with
            | .error fault => ([], none, .error fault)
            | .ok rest => parseFields fuel level false rest
          match key.value with
          | .ok key => ((key, value) :: fields, breach, after)
          | .error fault => ([], some ⟨fault, .malformed, faultOf after⟩, after)

end

/--
The document of a text, and the flaw behind it: the text may break off inside the document, or go on
after it with something other than white space. No character takes more than four steps.
-/
def ofText (text : String) : Document × Option Fault :=
  let characters := text.toList
  let (document, after) := parseValue (4 * characters.length + 4) 0 characters
  match after with
  | .error fault => (document, some fault)
  | .ok rest => (document, if (skipSpace rest).isEmpty then none else some .malformed)

end PlanRunner.Document
