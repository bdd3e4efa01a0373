import PlanRunner.Text.Quoted

/-!
# Writing TOML strings

A string is written in double quotes if it needs no escapes, else in single quotes, else in triple
quotes of either kind, else with escapes.
-/

namespace PlanRunner.Toml

def longestRun (character : Char) (characters : List Char) : Nat :=
  (characters.foldl
    (fun (longest, current) other =>
      if other = character then (max longest (current + 1), current + 1) else (longest, 0))
    (0, 0)).1

/-- Whether a character can only be written as an escape, and is no line break. -/
def isControl (character : Char) : Bool :=
  (character.toNat < 0x20 && character ≠ '\t' && character ≠ '\n') || character.toNat = 0x7F

/-- How a string is quoted. -/
inductive QuoteStyle where
  | basic
  | literal
  | basicLines
  | literalLines
  deriving DecidableEq, Repr

/-- How a text is quoted: in the first style of all that shows it as it is. -/
def QuoteStyle.of (characters : List Char) : QuoteStyle :=
  let hasControl := characters.any isControl
  let hasBreak := characters.contains '\n'
  let hasBackslash := characters.contains '\\'
  let doubleQuotes := longestRun '"' characters
  let singleQuotes := longestRun '\'' characters
  if !hasControl && !hasBackslash && doubleQuotes = 0 && !hasBreak then .basic
  else if !hasControl && singleQuotes = 0 && !hasBreak then .literal
  else if !hasControl && !hasBackslash && doubleQuotes ≤ 2 then .basicLines
  else if !hasControl && singleQuotes ≤ 2 then .literalLines
  else if hasBreak then .basicLines
  else .basic

/-- A code with four digits to the base sixteen, in capital letters. -/
def codeEscape (code : Nat) : List Char :=
  let digits := (Nat.toDigits 16 code).map Char.toUpper
  '\\' :: 'u' :: (List.replicate (4 - digits.length) '0' ++ digits)

/-- A character other than a double quote between double quotes. -/
def escapedCharacter (allowsBreak : Bool) (character : Char) : List Char :=
  if character = '\x08' then ['\\', 'b']
  else if character = '\t' then ['\\', 't']
  else if character = '\n' then if allowsBreak then ['\n'] else ['\\', 'n']
  else if character = '\x0c' then ['\\', 'f']
  else if character = '\r' then ['\\', 'r']
  else if character = '\\' then ['\\', '\\']
  else if isControl character then codeEscape character.toNat
  else [character]

/--
Characters between double quotes, of which so many may stand in a row, given how many just have.
-/
def escapedText (allowsBreak : Bool) (quotesInRow : Nat) : Nat → List Char → List Char
  | _, [] => []
  | quotes, character :: rest =>
      if character = '"' then
        if quotes < quotesInRow then '"' :: escapedText allowsBreak quotesInRow (quotes + 1) rest
        else '\\' :: '"' :: escapedText allowsBreak quotesInRow 0 rest
      else escapedCharacter allowsBreak character ++ escapedText allowsBreak quotesInRow 0 rest

/-- A line break after opening quotes, if there is one in the text. -/
def openingBreak (characters : List Char) : List Char :=
  if characters.contains '\n' then ['\n'] else []

def writeString (text : String) : String :=
  let characters := text.toList
  String.ofList <|
    match QuoteStyle.of characters with
    | .basic => '"' :: escapedText false 0 0 characters ++ ['"']
    | .literal => '\'' :: characters ++ ['\'']
    | .basicLines =>
        ['"', '"', '"'] ++ openingBreak characters ++ escapedText true 2 0 characters ++
          ['"', '"', '"']
    | .literalLines =>
        ['\'', '\'', '\''] ++ openingBreak characters ++ characters ++ ['\'', '\'', '\'']

end PlanRunner.Toml
