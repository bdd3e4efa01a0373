/-!
# TOML strings

Strings stand between quotes: double quotes with escapes, or single quotes without. Three quotes at
either end allow for line breaks and for quotes inside. Each scan starts after the opening quotes,
and tells the characters and what follows the closing quotes.
-/

namespace PlanRunner.Toml

/-- Characters that have been read, and what follows them. -/
abbrev Scanned := Option (List Char × List Char)

/-- Puts a character in front of those that have been read. -/
def Scanned.cons (character : Char) (scanned : Scanned) : Scanned :=
  scanned.map fun (characters, rest) => (character :: characters, rest)

/-- Whether a character may stand in a string or in a comment. -/
def isPlain (character : Char) : Bool :=
  character = '\t' || (0x20 ≤ character.toNat && character.toNat ≠ 0x7F)

/-- The value of a digit to the base sixteen. -/
def hexDigit? (digit : Char) : Option Nat :=
  if digit.isDigit then some (digit.toNat - '0'.toNat)
  else if 'a' ≤ digit ∧ digit ≤ 'f' then some (digit.toNat - 'a'.toNat + 10)
  else if 'A' ≤ digit ∧ digit ≤ 'F' then some (digit.toNat - 'A'.toNat + 10)
  else none

/-- The character with a code that is written to the base sixteen. -/
def codeCharacter? (digits : List Char) : Option Char := do
  let code ← digits.foldlM (fun value digit => (hexDigit? digit).map (value * 16 + ·)) 0
  if Nat.isValidChar code then return Char.ofNat code else none

/-- The character that a short escape stands for. -/
def escaped? : Char → Option Char
  | 'b' => some '\x08'
  | 't' => some '\t'
  | 'n' => some '\n'
  | 'f' => some '\x0c'
  | 'r' => some '\r'
  | 'e' => some '\x1b'
  | '"' => some '"'
  | '\\' => some '\\'
  | _ => none

/-- A string in double quotes on one line. -/
def basicString : List Char → Scanned
  | [] => none
  | '"' :: rest => some ([], rest)
  | '\\' :: 'x' :: a :: b :: rest =>
      (codeCharacter? [a, b]).bind fun character => (basicString rest).cons character
  | '\\' :: 'u' :: a :: b :: c :: d :: rest =>
      (codeCharacter? [a, b, c, d]).bind fun character => (basicString rest).cons character
  | '\\' :: 'U' :: a :: b :: c :: d :: e :: f :: g :: h :: rest =>
      (codeCharacter? [a, b, c, d, e, f, g, h]).bind fun character =>
        (basicString rest).cons character
  | '\\' :: letter :: rest =>
      (escaped? letter).bind fun character => (basicString rest).cons character
  | character :: rest => if isPlain character then (basicString rest).cons character else none

/-- A string in single quotes on one line. -/
def literalString : List Char → Scanned
  | [] => none
  | '\'' :: rest => some ([], rest)
  | character :: rest => if isPlain character then (literalString rest).cons character else none

/-- A line break at the start of a text is left out. -/
def dropLineBreak : List Char → List Char
  | '\n' :: rest => rest
  | '\r' :: '\n' :: rest => rest
  | rest => rest

/-- Whether nothing but blanks stands before the next line break. -/
def endsLine : List Char → Bool
  | ' ' :: rest | '\t' :: rest => endsLine rest
  | '\n' :: _ | '\r' :: '\n' :: _ => true
  | _ => false

/--
A string in triple double quotes. After a backslash at the end of a line, blanks and line breaks are
left out up to the next other character.
-/
def basicLines : Bool → List Char → Scanned
  | _, [] => none
  | _, '"' :: '"' :: '"' :: '"' :: '"' :: '"' :: _ => none
  | _, '"' :: '"' :: '"' :: '"' :: '"' :: rest => some (['"', '"'], rest)
  | _, '"' :: '"' :: '"' :: '"' :: rest => some (['"'], rest)
  | _, '"' :: '"' :: '"' :: rest => some ([], rest)
  | _, '\\' :: 'x' :: a :: b :: rest =>
      (codeCharacter? [a, b]).bind fun character => (basicLines false rest).cons character
  | _, '\\' :: 'u' :: a :: b :: c :: d :: rest =>
      (codeCharacter? [a, b, c, d]).bind fun character => (basicLines false rest).cons character
  | _, '\\' :: 'U' :: a :: b :: c :: d :: e :: f :: g :: h :: rest =>
      (codeCharacter? [a, b, c, d, e, f, g, h]).bind fun character =>
        (basicLines false rest).cons character
  | _, '\\' :: letter :: rest =>
      match escaped? letter with
      | some character => (basicLines false rest).cons character
      | none => if endsLine (letter :: rest) then basicLines true (letter :: rest) else none
  | skipping, '\r' :: '\n' :: rest =>
      if skipping then basicLines true rest else ((basicLines false rest).cons '\n').cons '\r'
  | skipping, character :: rest =>
      if skipping && (character = ' ' || character = '\t' || character = '\n') then
        basicLines true rest
      else if isPlain character || character = '\n' then (basicLines false rest).cons character
      else none

/-- A string in triple single quotes. -/
def literalLines : List Char → Scanned
  | [] => none
  | '\'' :: '\'' :: '\'' :: '\'' :: '\'' :: '\'' :: _ => none
  | '\'' :: '\'' :: '\'' :: '\'' :: '\'' :: rest => some (['\'', '\''], rest)
  | '\'' :: '\'' :: '\'' :: '\'' :: rest => some (['\''], rest)
  | '\'' :: '\'' :: '\'' :: rest => some ([], rest)
  | '\r' :: '\n' :: rest => ((literalLines rest).cons '\n').cons '\r'
  | character :: rest =>
      if isPlain character || character = '\n' then (literalLines rest).cons character else none

/-- A string of any kind from its opening quotes on. -/
def quotation : List Char → Scanned
  | '"' :: '"' :: '"' :: rest => basicLines false (dropLineBreak rest)
  | '\'' :: '\'' :: '\'' :: rest => literalLines (dropLineBreak rest)
  | '"' :: rest => basicString rest
  | '\'' :: rest => literalString rest
  | _ => none

end PlanRunner.Toml
