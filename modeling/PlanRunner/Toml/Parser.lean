import PlanRunner.Toml.Quotation
import PlanRunner.Toml.Scalar
import PlanRunner.Toml.Tree

/-!
# Parsing TOML

A text becomes a list of statements, and the statements a table. The parser recurses on a bound that
the steps taken for one character never exhaust.
-/

namespace PlanRunner.Toml

/-- What follows the blanks of a line. -/
def skipBlanks (characters : List Char) : List Char :=
  characters.dropWhile fun character => character = ' ' || character = '\t'

/-- What follows the characters of a comment. -/
def skipComment : List Char → Option (List Char)
  | [] => some []
  | '\n' :: rest => some ('\n' :: rest)
  | '\r' :: '\n' :: rest => some ('\n' :: rest)
  | character :: rest => if isPlain character then skipComment rest else none

/-- What follows the end of a line, before which a comment may stand. -/
def endLine (characters : List Char) : Option (List Char) :=
  let close : List Char → Option (List Char)
    | [] => some []
    | '\n' :: rest | '\r' :: '\n' :: rest => some rest
    | _ => none
  match skipBlanks characters with
  | '#' :: rest => (skipComment rest).bind close
  | rest => close rest

/-- What follows blanks, line breaks and comments. -/
def skipLines : Nat → List Char → Option (List Char)
  | 0, _ => none
  | fuel + 1, characters =>
      match skipBlanks characters with
      | '\n' :: rest | '\r' :: '\n' :: rest => skipLines fuel rest
      | '#' :: rest => (skipComment rest).bind (skipLines fuel)
      | rest => some rest

/-- Whether a character may stand in a key without quotes. -/
def isBareKey (character : Char) : Bool :=
  character.isAlphanum || character == '_' || character == '-'

def simpleKey (characters : List Char) : Option (String × List Char) :=
  match characters with
  | '"' :: rest => (basicString rest).map fun (key, rest) => (String.ofList key, rest)
  | '\'' :: rest => (literalString rest).map fun (key, rest) => (String.ofList key, rest)
  | _ =>
      let key := characters.takeWhile isBareKey
      if key.isEmpty then none
      else some (String.ofList key, characters.dropWhile isBareKey)

/-- The most parts of a key, and the deepest nesting of arrays and tables in a value. -/
def nestingLimit : Nat := 80

/-- The parts of a key before the last dot, and the last part. -/
def keyParts : Nat → List Char → Option ((List String × String) × List Char)
  | 0, _ => none
  | fuel + 1, characters => do
      let (key, rest) ← simpleKey (skipBlanks characters)
      match skipBlanks rest with
      | '.' :: rest => do
          let ((path, last), rest) ← keyParts fuel rest
          return ((key :: path, last), rest)
      | rest => return (([], key), rest)

/-- A key without too many parts. -/
def dottedKey (fuel : Nat) (characters : List Char) :
    Option ((List String × String) × List Char) := do
  let ((path, last), rest) ← keyParts fuel characters
  if path.length < nestingLimit then return ((path, last), rest) else none

/-- A word, which reaches over a blank between a date and a time. -/
def takeWord (characters : List Char) : List Char × List Char :=
  let word := characters.takeWhile isWordCharacter
  let rest := characters.dropWhile isWordCharacter
  match rest with
  | ' ' :: digit :: more =>
      if isDate word && digit.isDigit then
        (word ++ ' ' :: (digit :: more).takeWhile isWordCharacter,
          (digit :: more).dropWhile isWordCharacter)
      else (word, rest)
  | _ => (word, rest)

mutual

/-- A value inside so many others, and what follows it. -/
def parseValue : Nat → Nat → List Char → Option (Value × List Char)
  | 0, _, _ => none
  | fuel + 1, level, characters =>
      match characters with
      | '[' :: rest =>
          if level < nestingLimit then
            (parseItems fuel level rest).map fun (items, rest) => (.array items, rest)
          else none
      | '\x7b' :: rest =>
          if level < nestingLimit then do
            let (statements, rest) ← parseFields fuel level rest
            let table ← Table.ofStatements statements
            return (.table table, rest)
          else none
      | '"' :: _ | '\'' :: _ =>
          (quotation characters).map fun (text, rest) => (.string (String.ofList text), rest)
      | _ =>
          let (word, rest) := takeWord characters
          (word? word).map fun value => (value, rest)

/-- The items of an array from its start or from a comma on. -/
def parseItems : Nat → Nat → List Char → Option (List Value × List Char)
  | 0, _, _ => none
  | fuel + 1, level, characters => do
      match ← skipLines fuel characters with
      | ']' :: rest => return ([], rest)
      | rest => do
          let (value, rest) ← parseValue fuel (level + 1) rest
          match ← skipLines fuel rest with
          | ',' :: rest => do
              let (values, rest) ← parseItems fuel level rest
              return (value :: values, rest)
          | ']' :: rest => return ([value], rest)
          | _ => none

/-- The fields of a table in braces from its start or from a comma on. -/
def parseFields : Nat → Nat → List Char → Option (List Statement × List Char)
  | 0, _, _ => none
  | fuel + 1, level, characters => do
      match ← skipLines fuel characters with
      | '\x7d' :: rest => return ([], rest)
      | rest => do
          let (statement, rest) ← parseField fuel (level + 1) rest
          match ← skipLines fuel rest with
          | ',' :: rest => do
              let (statements, rest) ← parseFields fuel level rest
              return (statement :: statements, rest)
          | '\x7d' :: rest => return ([statement], rest)
          | _ => none

/-- A key with its value. Inside braces the line may end on either side of the equals sign. -/
def parseField : Nat → Nat → List Char → Option (Statement × List Char)
  | 0, _, _ => none
  | fuel + 1, level, characters => do
      let skip (rest : List Char) : Option (List Char) :=
        if level = 0 then some (skipBlanks rest) else skipLines fuel rest
      let ((path, key), rest) ← dottedKey fuel characters
      match ← skip rest with
      | '=' :: rest => do
          let (value, rest) ← parseValue fuel level (← skip rest)
          return (.assign path key value, rest)
      | _ => none

end

/-- A statement at the start of a line. -/
def parseStatement (fuel : Nat) (characters : List Char) : Option (Statement × List Char) :=
  match characters with
  | '[' :: '[' :: rest => do
      let ((path, key), rest) ← dottedKey fuel rest
      match rest with
      | ']' :: ']' :: rest => return (.element path key, rest)
      | _ => none
  | '[' :: rest => do
      let ((path, key), rest) ← dottedKey fuel rest
      match rest with
      | ']' :: rest => return (.table path key, rest)
      | _ => none
  | _ => parseField fuel 0 characters

/-- The statements of a text, each with the end of its line. -/
def parseStatements : Nat → List Char → Option (List Statement)
  | 0, _ => none
  | fuel + 1, characters => do
      match ← skipLines fuel characters with
      | [] => return []
      | rest => do
          let (statement, rest) ← parseStatement fuel rest
          let rest ← endLine rest
          let statements ← parseStatements fuel rest
          return statement :: statements

/-- The text without a mark of its byte order. -/
def dropMark : List Char → List Char
  | '\ufeff' :: rest => rest
  | rest => rest

/-- The table that a text describes, if it is TOML. No character takes more than four steps. -/
def Table.ofText (text : String) : Option Table :=
  let characters := dropMark text.toList
  (parseStatements (4 * characters.length + 4) characters).bind Table.ofStatements

end PlanRunner.Toml
