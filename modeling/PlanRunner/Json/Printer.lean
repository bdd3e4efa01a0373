import PlanRunner.Json.Basic

/-!
# JSON text

A value is written either compactly, without any white space, or over several lines with two spaces
for each level. Strings escape quotes, backslashes and control characters and nothing else.
-/

namespace PlanRunner.Json

/-- A digit in base sixteen, in small letters. -/
def hexDigit (value : Nat) : Char :=
  if value < 10 then Char.ofNat ('0'.toNat + value) else Char.ofNat ('a'.toNat + (value - 10))

/-- A character as it stands between the quotes of a string. -/
def escapedCharacter (character : Char) : List Char :=
  match character with
  | '"' => ['\\', '"']
  | '\\' => ['\\', '\\']
  | '\x08' => ['\\', 'b']
  | '\x0c' => ['\\', 'f']
  | '\n' => ['\\', 'n']
  | '\r' => ['\\', 'r']
  | '\t' => ['\\', 't']
  | _ =>
      if character.toNat < 0x20 then
        ['\\', 'u', '0', '0', hexDigit (character.toNat / 16), hexDigit (character.toNat % 16)]
      else [character]

/-- A string between quotes. -/
def stringText (text : String) : String :=
  String.ofList ('"' :: text.toList.flatMap escapedCharacter ++ ['"'])

def booleanText (value : Bool) : String :=
  if value then "true" else "false"

mutual

/-- The text of a value without white space. -/
def compact : Json → String
  | .null => "null"
  | .boolean value => booleanText value
  | .number value => value.render
  | .string value => stringText value
  | .array [] => "[]"
  | .array (item :: rest) => "[" ++ item.compact ++ compactItems rest ++ "]"
  | .object [] => "\x7b\x7d"
  | .object ((key, value) :: rest) =>
      "\x7b" ++ stringText key ++ ":" ++ value.compact ++ compactFields rest ++ "\x7d"

/-- The items after the first one, each after a comma. -/
def compactItems : List Json → String
  | [] => ""
  | item :: rest => "," ++ item.compact ++ compactItems rest

/-- The fields after the first one, each after a comma. -/
def compactFields : List (String × Json) → String
  | [] => ""
  | (key, value) :: rest =>
      "," ++ stringText key ++ ":" ++ value.compact ++ compactFields rest

end

/-- A new line, indented by two spaces for each level. -/
def newLine (level : Nat) : String :=
  String.ofList ('\n' :: List.replicate (2 * level) ' ')

mutual

/-- The text of a value over several lines, at a level of nesting. -/
def prettyAt (level : Nat) : Json → String
  | .null => "null"
  | .boolean value => booleanText value
  | .number value => value.render
  | .string value => stringText value
  | .array [] => "[]"
  | .array (item :: rest) =>
      "[" ++ newLine (level + 1) ++ item.prettyAt (level + 1) ++ prettyItems level rest ++
        newLine level ++ "]"
  | .object [] => "\x7b\x7d"
  | .object ((key, value) :: rest) =>
      "\x7b" ++ newLine (level + 1) ++ stringText key ++ ": " ++ value.prettyAt (level + 1) ++
        prettyFields level rest ++ newLine level ++ "\x7d"

/-- The items after the first one, each on a line of its own. -/
def prettyItems (level : Nat) : List Json → String
  | [] => ""
  | item :: rest =>
      "," ++ newLine (level + 1) ++ item.prettyAt (level + 1) ++ prettyItems level rest

/-- The fields after the first one, each on a line of its own. -/
def prettyFields (level : Nat) : List (String × Json) → String
  | [] => ""
  | (key, value) :: rest =>
      "," ++ newLine (level + 1) ++ stringText key ++ ": " ++ value.prettyAt (level + 1) ++
        prettyFields level rest

end

/-- The text of a value over several lines. -/
def pretty (value : Json) : String :=
  value.prettyAt 0

end PlanRunner.Json
