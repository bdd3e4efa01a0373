/-!
# Shortest decimals

A finite double is written with the fewest digits that read back as the same double; among several
such decimals the nearest one is taken. Which of two equally near ones is taken, and where the point
stands, is a matter of layout and is decided by the format that writes the number.
-/

namespace PlanRunner.Decimal

/-- The number `significand * 2 ^ exponent`. -/
structure Dyadic where
  significand : Nat
  exponent : Int
  deriving DecidableEq, Repr

/-- The magnitude of a finite double. -/
def Dyadic.ofFloat (value : Float) : Dyadic :=
  let bits := value.toBits.toNat
  let biased : Nat := bits / 0x10000000000000 % 0x800
  let fraction : Nat := bits % 0x10000000000000
  if biased = 0 then ⟨fraction, -1074⟩
  else ⟨fraction + 0x10000000000000, (biased : Int) - 1075⟩

/-- Whether the sign of a double is negative; zero has a sign too. -/
def isNegative (value : Float) : Bool :=
  value.toBits.toNat / 0x8000000000000000 == 1

/-- The number `digits * 10 ^ exponent`. -/
structure Scientific where
  digits : Nat
  exponent : Int
  deriving DecidableEq, Repr

/-- Which of two neighbours on a grid is taken if they are equally near. -/
inductive Tie where
  | toEven
  | up
  deriving DecidableEq, Repr

/-- The one of a number and its successor that a tie goes to. -/
def Tie.choose (tie : Tie) (lower : Nat) : Nat :=
  match tie with
  | .toEven => if lower % 2 = 0 then lower else lower + 1
  | .up => lower + 1

/--
The multiple of `10 ^ grid` to write for a positive double, if one reads back as it. The reals that
round to the double lie half way to its two neighbours at most; the ends belong to them when the
significand is even. All quantities are scaled to whole numbers.
-/
def onGrid? (tie : Tie) (number : Dyadic) (grid : Int) : Option Nat :=
  let quarters := 4 * number.significand
  let below := if number.significand = 0x10000000000000 && number.exponent != -1074 then 1 else 2
  let factor := Nat.pow 2 (number.exponent - 2).toNat * Nat.pow 10 (-grid).toNat
  let unit := Nat.pow 2 (2 - number.exponent).toNat * Nat.pow 10 grid.toNat
  let value := quarters * factor
  let low := (quarters - below) * factor
  let high := (quarters + 2) * factor
  let fits (candidate : Nat) : Bool :=
    if number.significand % 2 = 0 then low ≤ candidate * unit && candidate * unit ≤ high
    else low < candidate * unit && candidate * unit < high
  let lower := value / unit
  let upper := lower + 1
  if fits lower && fits upper then
    if 2 * value < (lower + upper) * unit then some lower
    else if (lower + upper) * unit < 2 * value then some upper
    else some (tie.choose lower)
  else if fits lower then some lower
  else if fits upper then some upper
  else none

/-- The first grid with a decimal that reads back, searched from coarse to fine. -/
def searchGrids (tie : Tie) (number : Dyadic) : Nat → Int → Scientific
  | 0, grid => ⟨0, grid⟩
  | fuel + 1, grid =>
      match onGrid? tie number grid with
      | some digits => ⟨digits, grid⟩
      | none => searchGrids tie number fuel (grid - 1)

/-- Moves the zeros at the end of the digits into the exponent. -/
def stripZeros : Nat → Scientific → Scientific
  | 0, decimal => decimal
  | fuel + 1, decimal =>
      if decimal.digits ≠ 0 ∧ decimal.digits % 10 = 0 then
        stripZeros fuel ⟨decimal.digits / 10, decimal.exponent + 1⟩
      else decimal

/--
The shortest decimal of a positive double. The search starts at a power of ten above the double, and
seventeen digits always suffice, so a few dozen grids are enough.
-/
def shortest (tie : Tie) (number : Dyadic) : Scientific :=
  let magnitude := number.exponent + (Nat.log2 number.significand : Int)
  stripZeros 20 (searchGrids tie number 40 (magnitude * 30103 / 100000 + 2))

/--
Where a format writes a number with a plain point: when its first digit stands for a power of ten
from `pointFrom` to `pointTo`. All other numbers get an exponent with a sign. A tie decides between
two shortest decimals that are equally near.
-/
structure Layout where
  pointFrom : Int
  pointTo : Int
  tie : Tie

/-- A decimal with a point, and with a digit on either side of it. -/
def writePositional (decimal : Scientific) : String :=
  let digits := Nat.toDigits 10 decimal.digits
  let leading : Int := digits.length + decimal.exponent
  String.ofList <|
    if 0 ≤ decimal.exponent then
      digits ++ List.replicate decimal.exponent.toNat '0' ++ ['.', '0']
    else if 0 < leading then
      digits.take leading.toNat ++ '.' :: digits.drop leading.toNat
    else
      '0' :: '.' :: List.replicate (-leading).toNat '0' ++ digits

/-- A decimal with one digit before the point and an exponent with its sign. -/
def writeExponential (decimal : Scientific) : String :=
  let digits := Nat.toDigits 10 decimal.digits
  let exponent : Int := digits.length + decimal.exponent - 1
  let mantissa :=
    match digits with
    | [] => []
    | [digit] => [digit]
    | digit :: rest => digit :: '.' :: rest
  let sign := if exponent < 0 then '-' else '+'
  String.ofList (mantissa ++ 'e' :: sign :: Nat.toDigits 10 exponent.natAbs)

/-- A finite double as text. -/
def Layout.write (layout : Layout) (value : Float) : String :=
  let magnitude := Dyadic.ofFloat value
  let body :=
    if magnitude.significand = 0 then "0.0"
    else
      let decimal := shortest layout.tie magnitude
      let leading : Int := (Nat.toDigits 10 decimal.digits).length + decimal.exponent - 1
      if layout.pointFrom ≤ leading ∧ leading ≤ layout.pointTo then writePositional decimal
      else writeExponential decimal
  if isNegative value then "-" ++ body else body

end PlanRunner.Decimal
