import PlanRunner.Wire.ReadError
import PlanRunner.Text.Blank

/-!
# Points in time

A point in time is written as date, time of day and distance from universal time, after RFC 3339
with some freedom: blanks may stand between the parts, the parts of the date need no leading zeros,
and a blank may stand for the `T`. It is always written in universal time, with as many digits after
the second as it needs out of 0, 3, 6 or 9.
-/

namespace PlanRunner

/--
A point in time: the seconds since the start of 1970 in universal time, and the nanoseconds since
then. A leap second counts on beyond the end of the second before it.
-/
structure Timestamp where
  seconds : Int
  nanoseconds : Nat
  deriving DecidableEq, Repr

namespace Timestamp

instance : Inhabited Timestamp := ⟨⟨0, 0⟩⟩

/-- The point in time so many milliseconds later. -/
def after (instant : Timestamp) (milliseconds : Nat) : Timestamp :=
  let total := instant.nanoseconds % 1000000000 + milliseconds % 1000 * 1000000
  ⟨instant.seconds + milliseconds / 1000 + total / 1000000000, total % 1000000000⟩

/-! ### The calendar -/

/-- Whether a year has a 29th of February. -/
def isLeapYear (year : Int) : Bool :=
  year % 4 = 0 ∧ (year % 100 ≠ 0 ∨ year % 400 = 0)

def daysInMonth (year : Int) (month : Nat) : Nat :=
  if month = 2 then if isLeapYear year then 29 else 28
  else if month = 4 ∨ month = 6 ∨ month = 9 ∨ month = 11 then 30
  else 31

/--
The days from the first of January 1970 to a date. Years are counted from March, so that the leap
day is the last day of a year, in cycles of 400 years.
-/
def daysFromDate (year : Int) (month day : Nat) : Int :=
  let shifted := if month ≤ 2 then year - 1 else year
  let cycle := shifted / 400
  let yearOfCycle := shifted % 400
  let monthFromMarch : Int := ((month + 9) % 12 : Nat)
  let dayOfYear := (153 * monthFromMarch + 2) / 5 + (day - 1)
  let dayOfCycle := yearOfCycle * 365 + yearOfCycle / 4 - yearOfCycle / 100 + dayOfYear
  cycle * 146097 + dayOfCycle - 719468

/-- The date that lies so many days after the first of January 1970. -/
def dateFromDays (days : Int) : Int × Nat × Nat :=
  let shifted := days + 719468
  let cycle := shifted / 146097
  let dayOfCycle := shifted % 146097
  let yearOfCycle :=
    (dayOfCycle - dayOfCycle / 1460 + dayOfCycle / 36524 - dayOfCycle / 146096) / 365
  let dayOfYear := dayOfCycle - (365 * yearOfCycle + yearOfCycle / 4 - yearOfCycle / 100)
  let monthFromMarch := (5 * dayOfYear + 2) / 153
  let day := dayOfYear - (153 * monthFromMarch + 2) / 5 + 1
  let month := if monthFromMarch < 10 then monthFromMarch + 3 else monthFromMarch - 9
  let year := yearOfCycle + cycle * 400
  (if month ≤ 2 then year + 1 else year, month.toNat, day.toNat)

/-- The first and the last year of the calendar. -/
def yearBounds : Int × Int := (-262143, 262142)

/-! ### Writing -/

/-- A number with leading zeros up to a width. -/
def padded (width value : Nat) : String :=
  let digits := Nat.toDigits 10 value
  String.ofList (List.replicate (width - digits.length) '0' ++ digits)

/-- A year: four digits from 0 to 9999, else a sign and at least four digits. -/
def yearText (year : Int) : String :=
  if 0 ≤ year ∧ year ≤ 9999 then padded 4 year.toNat
  else (if year < 0 then "-" else "+") ++ padded 4 year.natAbs

/-- The digits after the second. -/
def fractionText (nanoseconds : Nat) : String :=
  if nanoseconds = 0 then ""
  else if nanoseconds % 1000000 = 0 then "." ++ padded 3 (nanoseconds / 1000000)
  else if nanoseconds % 1000 = 0 then "." ++ padded 6 (nanoseconds / 1000)
  else "." ++ padded 9 nanoseconds

/-- A point in time as text. -/
def render (instant : Timestamp) : String :=
  let (year, month, day) := dateFromDays (instant.seconds / 86400)
  let secondOfDay := (instant.seconds % 86400).toNat
  let leap := 1000000000 ≤ instant.nanoseconds
  let second := secondOfDay % 60 + (if leap then 1 else 0)
  let nanoseconds := if leap then instant.nanoseconds - 1000000000 else instant.nanoseconds
  yearText year ++ "-" ++ padded 2 month ++ "-" ++ padded 2 day ++ "T" ++
    padded 2 (secondOfDay / 3600) ++ ":" ++ padded 2 (secondOfDay / 60 % 60) ++ ":" ++
    padded 2 second ++ fractionText nanoseconds ++ "Z"

/-! ### Reading -/

/-- A reader of the start of a text. -/
abbrev Part (α : Type) := List Char → Except TimeError (α × List Char)

/-- A number of one digit or more, up to a greatest count of digits, that fits into 63 bits. -/
def digits (most : Nat) : Part Nat := fun characters =>
  match characters with
  | [] => .error .tooShort
  | first :: _ =>
      if !first.isDigit then .error .invalid
      else
        let taken := (characters.take most).takeWhile Char.isDigit
        let value := taken.foldl (fun value digit => value * 10 + (digit.toNat - '0'.toNat)) 0
        if value < 0x8000000000000000 then .ok (value, characters.drop taken.length)
        else .error .outOfRange

/-- A number within bounds, after blanks. -/
def bounded (low high : Nat) : Part Nat := fun characters => do
  let (value, rest) ← digits 2 (Text.trimLeft characters)
  if low ≤ value ∧ value ≤ high then return (value, rest)
  else throw .outOfRange

/-- A year, after blanks: four digits at most, or any number with a sign. -/
def year : Part Int := fun characters => do
  let (value, rest) ←
    match Text.trimLeft characters with
    | '-' :: rest =>
        (digits rest.length rest).map fun (value, rest) => (-(value : Int), rest)
    | '+' :: rest =>
        (digits rest.length rest).map fun (value, rest) => ((value : Int), rest)
    | rest =>
        (digits 4 rest).map fun (value, rest) => ((value : Int), rest)
  if -0x80000000 ≤ value ∧ value < 0x80000000 then return (value, rest)
  else throw .outOfRange

/-- A mark between two parts. -/
def mark (expected : Char) (blanks : Bool) : Part Unit := fun characters =>
  match if blanks then Text.trimLeft characters else characters with
  | [] => .error .tooShort
  | character :: rest => if character = expected then .ok ((), rest) else .error .invalid

/-- The mark between date and time. -/
def separator : Part Unit := fun characters =>
  match characters with
  | [] => .error .tooShort
  | character :: rest =>
      if character = 'T' ∨ character = 't' ∨ character = ' ' then .ok ((), rest)
      else .error .invalid

/-- The digits after the second, in nanoseconds; digits beyond the ninth are passed over. -/
def fraction : Part Nat := fun characters =>
  match characters with
  | '.' :: rest => do
      let (value, behind) ← digits 9 rest
      let scale := Nat.pow 10 (9 - (rest.length - behind.length))
      return (value * scale, behind.dropWhile Char.isDigit)
  | _ => .ok (0, characters)

/-- Two digits, which need room for two bytes. -/
def twoDigits : List Char → Except TimeError (Option (Nat × Nat))
  | first :: second :: _ =>
      if first.isDigit ∧ second.isDigit then
        .ok (some (first.toNat - '0'.toNat, second.toNat - '0'.toNat))
      else .ok none
  | [only] => if only.utf8Size < 2 then .error .tooShort else .ok none
  | [] => .error .tooShort

/-- The distance from universal time in seconds: a letter, or a sign with hours and minutes. -/
def offset : Part Int := fun characters => do
  match characters with
  | 'Z' :: rest | 'z' :: rest => return (0, rest)
  | sign :: rest => do
      if sign ≠ '+' ∧ sign ≠ '-' ∧ sign ≠ '\u2212' then throw .invalid
      let hours ←
        match ← twoDigits rest with
        | some (tens, ones) => pure (tens * 10 + ones)
        | none => throw .invalid
      let rest := (rest.drop 2).dropWhile fun character => character = ':' || Text.isBlank character
      let minutes ←
        match ← twoDigits rest with
        | some (tens, ones) => if tens < 6 then pure (tens * 10 + ones) else throw .outOfRange
        | none => throw .invalid
      let distance : Int := (hours * 3600 + minutes * 60 : Nat)
      return (if sign = '+' then distance else -distance, rest.drop 2)
  | [] => throw .tooShort

/-- The distance from universal time, which may also be given by its name. -/
def zone : Part Int := fun characters =>
  match characters with
  | first :: second :: third :: rest =>
      if first.toLower = 'u' ∧ second.toLower = 't' ∧ third.toLower = 'c' then .ok (0, rest)
      else offset characters
  | _ => offset characters

/-- Reads a point in time. -/
def parse (text : String) : Except TimeError Timestamp := do
  let (year, rest) ← year text.toList
  let ((), rest) ← mark '-' true rest
  let (month, rest) ← bounded 1 12 rest
  let ((), rest) ← mark '-' true rest
  let (day, rest) ← bounded 1 31 rest
  let ((), rest) ← separator rest
  let (hour, rest) ← bounded 0 23 rest
  let ((), rest) ← mark ':' true rest
  let (minute, rest) ← bounded 0 59 rest
  let ((), rest) ← mark ':' true rest
  let (second, rest) ← bounded 0 60 rest
  let (nanoseconds, rest) ← fraction rest
  let (offset, rest) ← zone (Text.trimLeft rest)
  if !(Text.trimLeft rest).isEmpty then throw .tooLong
  if year < yearBounds.1 ∨ yearBounds.2 < year ∨ daysInMonth year month < day then
    throw .outOfRange
  if 86400 ≤ offset.natAbs then throw .outOfRange
  let secondOfDay := hour * 3600 + minute * 60 + min second 59
  let seconds := daysFromDate year month day * 86400 + secondOfDay - offset
  let (utcYear, _, _) := dateFromDays (seconds / 86400)
  if utcYear < yearBounds.1 ∨ yearBounds.2 < utcYear then throw .impossible
  return ⟨seconds, nanoseconds + (if second = 60 then 1000000000 else 0)⟩

end Timestamp

end PlanRunner
