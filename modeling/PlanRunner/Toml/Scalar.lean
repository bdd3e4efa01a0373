import PlanRunner.Json.Number
import PlanRunner.Time.Timestamp
import PlanRunner.Toml.Value

/-!
# TOML words

Truth values, numbers and points in time are written as words of letters, digits and a few signs.
-/

namespace PlanRunner.Toml

def isWordCharacter (character : Char) : Bool :=
  character.isAlphanum || character == '_' || character == '+' || character == '-' ||
    character == '.' || character == ':'

/-! ### Numbers -/

/-- The value of a digit, in capital or small letters beyond nine. -/
def digitValue (digit : Char) : Nat :=
  if digit.isDigit then digit.toNat - '0'.toNat
  else digit.toLower.toNat - 'a'.toNat + 10

def isDigitOf (base : Nat) (character : Char) : Bool :=
  character.isAlphanum && digitValue character < base

/-- Digits to a base without the single underscores between them, after a digit. -/
def moreDigits (base : Nat) : List Char → Option (List Char)
  | [] => some []
  | ['_'] => none
  | '_' :: digit :: rest =>
      if isDigitOf base digit then (moreDigits base rest).map (digit :: ·) else none
  | digit :: rest =>
      if isDigitOf base digit then (moreDigits base rest).map (digit :: ·) else none

/-- Digits to a base, without the single underscores between them. -/
def digits? (base : Nat) : List Char → Option (List Char)
  | [] => none
  | digit :: rest =>
      if isDigitOf base digit then (moreDigits base rest).map (digit :: ·) else none

/-- The number that digits to a base denote. -/
def digitsValue (base : Nat) (digits : List Char) : Nat :=
  digits.foldl (fun value digit => value * base + digitValue digit) 0

/-- A sign, which may be left out, and what follows it. -/
def takeSign : List Char → Bool × List Char
  | '-' :: rest => (true, rest)
  | '+' :: rest => (false, rest)
  | rest => (false, rest)

/-- Decimal digits of a whole number, which starts with zero only if it is zero. -/
def wholeDigits? (word : List Char) : Option (List Char) :=
  match digits? 10 word with
  | some ('0' :: _ :: _) => none
  | found => found

/-- An integer, with the greatest numbers that can be told apart. -/
def integer? (word : List Char) : Option Value :=
  let unsigned (base : Nat) (rest : List Char) : Option Int :=
    (digits? base rest).map fun digits => (digitsValue base digits : Int)
  let value : Option Int :=
    match word with
    | '0' :: 'x' :: rest => unsigned 16 rest
    | '0' :: 'o' :: rest => unsigned 8 rest
    | '0' :: 'b' :: rest => unsigned 2 rest
    | _ =>
        let (negative, rest) := takeSign word
        (wholeDigits? rest).map fun digits =>
          let magnitude : Int := digitsValue 10 digits
          if negative then -magnitude else magnitude
  match value with
  | some value =>
      if -0x80000000000000000000000000000000 ≤ value ∧
          value < 0x100000000000000000000000000000000 then
        some (.integer value)
      else none
  | none => none

/--
The double next to a decimal. Exponents at which nothing but zero or infinity can come out are
told apart first; zeros at the start of the digits do not count there.
-/
def scientific (digits : List Char) (exponent : Int) : Float :=
  let significant := digits.dropWhile (· = '0')
  let value := digitsValue 10 significant
  let magnitude : Int := significant.length + exponent
  if significant.isEmpty then 0.0
  else if 400 < magnitude then 1.0 / 0.0
  else if magnitude < -400 then 0.0
  else if 0 ≤ exponent then Float.ofScientific value false exponent.toNat
  else Float.ofScientific value true (-exponent).toNat

/--
The number that the digits of an exponent denote. Once it has more than sixteen bits, which is far
beyond every double, the digits that follow are passed over.
-/
def exponentValue (digits : List Char) : Nat :=
  digits.foldl
    (fun value digit => if value < 0x10000 then value * 10 + digitValue digit else value) 0

/-- The exponent of a double, which may be left out. -/
def exponent? : List Char → Option Int
  | [] => some 0
  | letter :: rest =>
      if letter = 'e' ∨ letter = 'E' then
        let (negative, rest) := takeSign rest
        (digits? 10 rest).map fun digits =>
          let magnitude : Int := exponentValue digits
          if negative then -magnitude else magnitude
      else none

def isExponentMark (character : Char) : Bool :=
  character == 'e' || character == 'E'

/-- A finite double without its sign: it has digits after a point, or an exponent, or both. -/
def magnitude? (word : List Char) : Option Float := do
  let mantissa := word.takeWhile (!isExponentMark ·)
  let power := word.dropWhile (!isExponentMark ·)
  let whole ← wholeDigits? (mantissa.takeWhile (· ≠ '.'))
  let exponent ← exponent? power
  match mantissa.dropWhile (· ≠ '.') with
  | [] => if power.isEmpty then none else return scientific whole exponent
  | _ :: after => do
      let fraction ← digits? 10 after
      return scientific (whole ++ fraction) (exponent - fraction.length)

/-- A double. One that is written with digits must not be too large. -/
def float? (word : List Char) : Option Value :=
  let (negative, rest) := takeSign word
  let signed (value : Float) : Value := .float (if negative then -value else value)
  if rest = ['i', 'n', 'f'] then some (signed (1.0 / 0.0))
  else if rest = ['n', 'a', 'n'] then some (.float (0.0 / 0.0))
  else
    match magnitude? rest with
    | some value => if value.isFinite then some (signed value) else none
    | none => none

/-! ### Points in time -/

/-- Two decimal digits up to a greatest number, and what follows them. -/
def twoDigits? (most : Nat) : List Char → Option (Nat × List Char)
  | first :: second :: rest =>
      if first.isDigit && second.isDigit then
        let value := digitsValue 10 [first, second]
        if value ≤ most then some (value, rest) else none
      else none
  | _ => none

def after? (character : Char) : List Char → Option (List Char)
  | first :: rest => if first = character then some rest else none
  | [] => none

/-- What follows a date at the start of a word. -/
def afterDate? (word : List Char) : Option (List Char) := do
  let (century, rest) ← twoDigits? 99 word
  let (year, rest) ← twoDigits? 99 rest
  let rest ← after? '-' rest
  let (month, rest) ← twoDigits? 12 rest
  let rest ← after? '-' rest
  let (day, rest) ← twoDigits? 31 rest
  if month = 0 ∨ day = 0 ∨ Timestamp.daysInMonth (century * 100 + year : Nat) month < day then none
  else return rest

/-- What follows the fraction of a second, which may be left out. -/
def afterFraction? : List Char → Option (List Char)
  | '.' :: digit :: rest => if digit.isDigit then some (rest.dropWhile Char.isDigit) else none
  | '.' :: [] => none
  | rest => some rest

/-- What follows a time of day; its seconds may be left out. -/
def afterTime? (word : List Char) : Option (List Char) := do
  let (_, rest) ← twoDigits? 23 word
  let rest ← after? ':' rest
  let (_, rest) ← twoDigits? 59 rest
  match rest with
  | ':' :: rest => do
      let (_, rest) ← twoDigits? 60 rest
      afterFraction? rest
  | rest => return rest

/-- Whether a distance from universal time is written, or nothing at all. -/
def isOffset : List Char → Bool
  | [] | ['Z'] | ['z'] => true
  | sign :: rest =>
      (sign = '+' || sign = '-') &&
        ((do
          let (_, rest) ← twoDigits? 23 rest
          let rest ← after? ':' rest
          let (_, rest) ← twoDigits? 59 rest
          return rest.isEmpty).getD false)

def isDate (word : List Char) : Bool :=
  afterDate? word == some []

/-- Whether a word is a date, a time of day, or both with a mark between them. -/
def isTime (word : List Char) : Bool :=
  match afterDate? word with
  | some [] => true
  | some (mark :: rest) =>
      (mark = 'T' || mark = 't' || mark = ' ') && ((afterTime? rest).map isOffset).getD false
  | none => afterTime? word == some []

def word? (word : List Char) : Option Value :=
  if word = ['t', 'r', 'u', 'e'] then some (.boolean true)
  else if word = ['f', 'a', 'l', 's', 'e'] then some (.boolean false)
  else if isTime word then some .time
  else integer? word <|> float? word

end PlanRunner.Toml
