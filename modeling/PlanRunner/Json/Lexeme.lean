import PlanRunner.Json.Document

/-!
# Strings, numerals and literals

The words of a JSON text. Each is scanned for two readers at once: one that needs its value and one
that only has to know where it ends. They can disagree: half of a surrogate pair is no character,
but the string that holds it still ends at its quote.
-/

namespace PlanRunner.Lexeme

/-- What a reader of a word gets, and where a reader that passes it over goes on. -/
structure Scan (α : Type) where
  value : Except Fault α
  after : Except Fault (List Char)

/-- A scan for which both readers meet the same flaw. -/
def Scan.broken {α : Type} (fault : Fault) : Scan α := ⟨.error fault, .error fault⟩

/-- What follows the white space of JSON. -/
def skipSpace (characters : List Char) : List Char :=
  characters.dropWhile fun character =>
    character = ' ' || character = '\n' || character = '\t' || character = '\r'

/-! ### Strings -/

/-- A part of a string: a character, or a code unit of 16 bits given by its number. -/
inductive Piece where
  | character (character : Char)
  | codeUnit (code : Nat)

/-- How a string ends: at its quote, with the rest of the text, or by a flaw. -/
inductive Ending where
  | closed (rest : List Char)
  | broken (fault : Fault)

/-- The character that a short escape stands for. -/
def escapeTarget? : Char → Option Char
  | '"' => some '"'
  | '\\' => some '\\'
  | '/' => some '/'
  | 'b' => some '\x08'
  | 'f' => some '\x0c'
  | 'n' => some '\n'
  | 'r' => some '\r'
  | 't' => some '\t'
  | _ => none

/-- The value of a digit in base sixteen, in capital or small letters. -/
def hexValue? (digit : Char) : Option Nat :=
  if '0' ≤ digit ∧ digit ≤ '9' then some (digit.toNat - '0'.toNat)
  else if 'a' ≤ digit ∧ digit ≤ 'f' then some (digit.toNat - 'a'.toNat + 10)
  else if 'A' ≤ digit ∧ digit ≤ 'F' then some (digit.toNat - 'A'.toNat + 10)
  else none

/-- The number that four digits in base sixteen denote. -/
def codeUnit? (first second third fourth : Char) : Option Nat := do
  let first ← hexValue? first
  let second ← hexValue? second
  let third ← hexValue? third
  let fourth ← hexValue? fourth
  return ((first * 16 + second) * 16 + third) * 16 + fourth

/-- An escape without room for four bytes of digits is cut off; with room it is wrong. -/
def shortEscapeFault (rest : List Char) : Fault :=
  let room := rest.foldl (fun size character => size + character.utf8Size) 0
  if room < 4 then .truncated else .malformed

/-- The parts of a string whose opening quote has been passed. -/
def pieces : List Char → List Piece × Ending
  | [] => ([], .broken .truncated)
  | '"' :: rest => ([], .closed rest)
  | '\\' :: 'u' :: first :: second :: third :: fourth :: rest =>
      match codeUnit? first second third fourth with
      | some code =>
          let (parts, ending) := pieces rest
          (.codeUnit code :: parts, ending)
      | none => ([], .broken .malformed)
  | '\\' :: 'u' :: rest => ([], .broken (shortEscapeFault rest))
  | '\\' :: letter :: rest =>
      match escapeTarget? letter with
      | some target =>
          let (parts, ending) := pieces rest
          (.character target :: parts, ending)
      | none => ([], .broken .malformed)
  | '\\' :: [] => ([], .broken .truncated)
  | character :: rest =>
      if character.toNat < 0x20 then ([], .broken .malformed)
      else
        let (parts, ending) := pieces rest
        (.character character :: parts, ending)

/--
The characters of a string from its parts. Two code units of a surrogate pair make one character; a
unit of a pair without the other is a flaw, which is found where the other unit is missing.
-/
def assemble (ending : Ending) : List Piece → Except Fault (List Char)
  | [] =>
      match ending with
      | .closed _ => .ok []
      | .broken fault => .error fault
  | .character character :: rest => (assemble ending rest).map (character :: ·)
  | .codeUnit high :: .codeUnit low :: rest =>
      if 0xD800 ≤ high ∧ high < 0xDC00 then
        if 0xDC00 ≤ low ∧ low < 0xE000 then
          (assemble ending rest).map
            (Char.ofNat (0x10000 + (high - 0xD800) * 0x400 + (low - 0xDC00)) :: ·)
        else .error .malformed
      else if 0xDC00 ≤ high ∧ high < 0xE000 then .error .malformed
      else (assemble ending (.codeUnit low :: rest)).map (Char.ofNat high :: ·)
  | .codeUnit code :: rest =>
      if 0xD800 ≤ code ∧ code < 0xDC00 then
        match rest, ending with
        | [], .broken fault => .error fault
        | _, _ => .error .malformed
      else if 0xDC00 ≤ code ∧ code < 0xE000 then .error .malformed
      else (assemble ending rest).map (Char.ofNat code :: ·)

/-- A string whose opening quote has been passed. -/
def string (characters : List Char) : Scan String :=
  let (parts, ending) := pieces characters
  { value := (assemble ending parts).map String.ofList
    after :=
      match ending with
      | .closed rest => .ok rest
      | .broken fault => .error fault }

/-! ### Numerals -/

/-- The leading decimal digits and what follows them. -/
def digits (characters : List Char) : List Char × List Char :=
  (characters.takeWhile Char.isDigit, characters.dropWhile Char.isDigit)

/--
A digit is missing at this point. A reader of the value finds the text cut off if it ends here; a
reader that passes the numeral over finds it wrong in any case.
-/
def digitMissing {α : Type} (rest : List Char) : Scan α :=
  { value := .error (if rest.isEmpty then .truncated else .malformed)
    after := .error .malformed }

/-- The value of a numeral that has been scanned to its end. -/
def finish (numeral : Numeral) (rest : List Char) : Scan Number :=
  { value :=
      match numeral.toNumber? with
      | some number => .ok number
      | none => .error .malformed
    after := .ok rest }

def exponentPart (negative : Bool) (whole : List Char) (fraction : Option (List Char)) :
    List Char → Scan Number
  | 'e' :: rest | 'E' :: rest =>
      let (minus, rest) :=
        match rest with
        | '-' :: rest => (true, rest)
        | '+' :: rest => (false, rest)
        | rest => (false, rest)
      match digits rest with
      | ([], rest) => digitMissing rest
      | (power, rest) => finish ⟨negative, whole, fraction, some (minus, power)⟩ rest
  | rest => finish ⟨negative, whole, fraction, none⟩ rest

/-- The digits after the point of a numeral, if there is one, and its exponent. -/
def fractionPart (negative : Bool) (whole : List Char) : List Char → Scan Number
  | '.' :: rest =>
      match digits rest with
      | ([], rest) => digitMissing rest
      | (fraction, rest) => exponentPart negative whole (some fraction) rest
  | rest => exponentPart negative whole none rest

/-- A numeral after its sign. A zero is not followed by another digit. -/
def unsigned (negative : Bool) (characters : List Char) : Scan Number :=
  match digits characters with
  | ([], rest) => digitMissing rest
  | ('0' :: _ :: _, _) => .broken .malformed
  | (whole, rest) => fractionPart negative whole rest

def number : List Char → Scan Number
  | '-' :: rest => unsigned true rest
  | rest => unsigned false rest

/-! ### Literals -/

/-- What follows the letters of a literal. -/
def literal : List Char → List Char → Except Fault (List Char)
  | [], rest => .ok rest
  | _ :: _, [] => .error .truncated
  | letter :: letters, character :: rest =>
      if letter = character then literal letters rest else .error .malformed

end PlanRunner.Lexeme
