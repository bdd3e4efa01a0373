import PlanRunner.Decimal.Shortest

/-!
# JSON numbers

A number is an integer that fits into 64 bits, with or without a sign, or a finite double. A written
numeral becomes an integer if it is written as one and fits; every other numeral becomes a double,
unless it is too large for one.
-/

namespace PlanRunner

/-- A number of a JSON value. -/
inductive Number where
  | integer (value : Int) (bounds : -0x8000000000000000 ≤ value ∧ value < 0x10000000000000000)
  | float (value : Float) (finite : value.isFinite = true)
  deriving DecidableEq

namespace Number

instance : Inhabited Number := ⟨.integer 0 (by decide)⟩

/--
Doubles have a plain point from 0.00001 up to sixteen digits before the point, and a tie goes to the
even decimal.
-/
def floatLayout : Decimal.Layout := ⟨-5, 15, .toEven⟩

def render : Number → String
  | .integer value _ => toString value
  | .float value _ => floatLayout.write value

/-- The number of a natural number below two to the power of 64. -/
def ofNat (value : Nat) (bound : value < 0x10000000000000000) : Number :=
  .integer value ⟨by omega, by omega⟩

/-- The number of a word of 32 bits. -/
def ofUInt32 (value : UInt32) : Number :=
  ofNat value.toNat (by have := value.toNat_lt; omega)

/-- The number of a word of 64 bits. -/
def ofUInt64 (value : UInt64) : Number :=
  ofNat value.toNat value.toNat_lt

/-- A double as a number, unless it is infinite or no number at all. -/
def ofFloat? (value : Float) : Option Number :=
  if finite : value.isFinite = true then some (.float value finite) else none

end Number

/-- A numeral as it is written: its sign, the digits around the point, and its exponent. -/
structure Numeral where
  negative : Bool
  whole : List Char
  fraction : Option (List Char)
  exponent : Option (Bool × List Char)

namespace Numeral

def digitValue (digit : Char) : Nat :=
  digit.toNat - '0'.toNat

/-- The number that a list of decimal digits denotes. -/
def digitsValue (digits : List Char) : Nat :=
  digits.foldl (fun value digit => value * 10 + digitValue digit) 0

/--
The leading digits that fit into a word of 64 bits. A digit that does not fit is dropped with all
that follow it, and the second component counts the dropped ones.
-/
def wholePart (digits : List Char) : Nat × Nat :=
  digits.foldl
    (fun (significand, dropped) digit =>
      let extended := significand * 10 + digitValue digit
      if dropped = 0 && extended < 0x10000000000000000 then (extended, 0)
      else (significand, dropped + 1))
    (0, 0)

/--
Extends a significand by digits after the point as long as it fits into a word of 64 bits. The
second component counts the digits taken, the last one tells whether all were.
-/
def fractionPart (significand : Nat) (digits : List Char) : Nat × Nat × Bool :=
  digits.foldl
    (fun (significand, places, taking) digit =>
      let extended := significand * 10 + digitValue digit
      if taking && extended < 0x10000000000000000 then (extended, places + 1, true)
      else (significand, places, false))
    (significand, 0, true)

def powerOfTen (exponent : Nat) : Float :=
  Float.ofScientific 1 false exponent

/--
The double next to a significand of 64 bits, multiplied or divided by a power of ten. Powers beyond
`10 ^ 308` are no doubles: multiplying by them fails, and dividing is done in two steps, after which
nothing is left of the significand.
-/
def scale? (significand : Nat) (exponent : Int) : Option Float :=
  let value := significand.toUInt64.toFloat
  if 0 ≤ exponent then
    if exponent ≤ 308 then
      let product := value * powerOfTen exponent.toNat
      if product.isFinite then some product else none
    else if significand = 0 then some value
    else none
  else if -308 ≤ exponent then some (value / powerOfTen (-exponent).toNat)
  else if -616 ≤ exponent then
    some (value / powerOfTen 308 / powerOfTen (-exponent - 308).toNat)
  else some 0.0

/-- The double that a numeral denotes, unless it is too large. -/
def toFloat? (numeral : Numeral) : Option Float :=
  let (whole, dropped) := wholePart numeral.whole
  let (significand, places, _) := fractionPart whole (numeral.fraction.getD [])
  let shift : Int :=
    match numeral.exponent with
    | none => 0
    | some (false, digits) => digitsValue digits
    | some (true, digits) => -digitsValue digits
  (scale? significand (dropped - places + shift)).map fun value =>
    if numeral.negative then -value else value

/-- The integer that a numeral denotes if it has neither a fraction nor an exponent and fits. -/
def toInteger? (numeral : Numeral) : Option Number :=
  match numeral.fraction, numeral.exponent with
  | none, none =>
      let magnitude := digitsValue numeral.whole
      if numeral.negative then
        if bound : 0 < magnitude ∧ magnitude ≤ 0x8000000000000000 then
          some (.integer (-magnitude) ⟨by omega, by omega⟩)
        else none
      else if bound : magnitude < 0x10000000000000000 then some (Number.ofNat magnitude bound)
      else none
  | _, _ => none

/-- The number that a numeral denotes. There is none if it is too large for a double. -/
def toNumber? (numeral : Numeral) : Option Number :=
  match numeral.toInteger? with
  | some number => some number
  | none => numeral.toFloat?.bind Number.ofFloat?

end Numeral

end PlanRunner
