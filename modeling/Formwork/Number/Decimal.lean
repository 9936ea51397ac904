import Formwork.Number.Binary64

/-! # Decimal numbers

Reading a decimal as the nearest binary number, and writing a binary number with
the fewest digits that read back as the same one. How a chosen decimal is spelled
(where positional notation ends, how an exponent looks) is a `DecimalStyle`.
-/

namespace Formwork

/-- The number `coefficient · 10 ^ exponent`. -/
structure Decimal where
  coefficient : Nat
  exponent : Int
  deriving Repr, DecidableEq

/-- How many decimal digits a number is written with. -/
def digitCount (n : Nat) : Nat := (Nat.toDigits 10 n).length

def digitsValue (digits : List Char) : Nat :=
  digits.foldl (fun value c => 10 * value + (c.toNat - '0'.toNat)) 0

def isAsciiDigit (c : Char) : Bool := '0' ≤ c && c ≤ '9'

namespace Decimal

/-- The nearest binary number. Decimals far beyond either end of the range are
    settled by their leading place alone. -/
def toBinary64 (negative : Bool) (d : Decimal) : Binary64 :=
  let leading := d.exponent + digitCount d.coefficient
  if d.coefficient = 0 then .finite negative 0
  else if 310 < leading then .infinite negative
  else if leading < -330 then .finite negative 0
  else if 0 ≤ d.exponent then
    Binary64.ofRatio negative (d.coefficient * Nat.pow 10 d.exponent.toNat) 1
  else Binary64.ofRatio negative d.coefficient (Nat.pow 10 (-d.exponent).toNat)

/-- A decimal read from digits before the point, digits after it and a power of ten. -/
def ofParts (whole fraction : List Char) (power : Int) : Decimal :=
  { coefficient := digitsValue (whole ++ fraction)
    exponent := power - fraction.length }

end Decimal

namespace Binary64

/-- How many places the integer part of a positive count of units has; zero or
    less when the number is below one. -/
def leadingPlace (units : Nat) : Int :=
  (digitCount (units * Nat.pow 10 400 / one) : Int) - 400

/-- The numbers that round to a given one, as the ends of an interval in quarters
    of a unit; the ends belong to it exactly when the significand is even. -/
structure RoundingInterval where
  lower : Nat
  upper : Nat
  closed : Bool
  deriving Repr, DecidableEq

/-- The interval of quarters of units that round to `units`. Below a power of two
    the neighbours lie half as far away. -/
def roundingInterval (units : Nat) : RoundingInterval :=
  let step := Nat.pow 2 (excessBits units)
  let significand := units / step
  let narrow := significand == Nat.pow 2 52 && 1 < step
  { lower := 4 * units - (if narrow then step else 2 * step)
    upper := 4 * units + 2 * step
    closed := significand % 2 == 0 }

namespace RoundingInterval

/-- Whether the quotient `num / den` of quarters lies in the interval. -/
def holds (r : RoundingInterval) (num den : Nat) : Bool :=
  if r.closed then r.lower * den ≤ num && num ≤ r.upper * den
  else r.lower * den < num && num < r.upper * den

end RoundingInterval

/-- The best decimal with last place `10 ^ place` that reads back as `units`. The
    two neighbours of the value on that grid are tried; of two that fit the nearer
    is taken, and the even one of two equally near. -/
def decimalAt? (units : Nat) (place : Int) : Option Decimal :=
  let interval := roundingInterval units
  -- the value in quarters over a common denominator, and the size of one grid step there
  let scale := Nat.pow 10 (-place).toNat
  let grid := 4 * one * Nat.pow 10 place.toNat
  let value := 4 * units * scale
  let low := value / grid
  let below := value - low * grid
  let above := (low + 1) * grid - value
  let lowFits := interval.holds (low * grid) scale && low != 0
  let highFits := interval.holds ((low + 1) * grid) scale
  let highIsBetter := above < below || (above == below && low % 2 == 1)
  if lowFits && !(highFits && highIsBetter) then some ⟨low, place⟩
  else if highFits then some ⟨low + 1, place⟩
  else none

/-- The decimal with the fewest digits that reads back as a positive count of units. -/
def shortest (units : Nat) : Decimal :=
  let leading := leadingPlace units
  match (List.range 17).findSome? fun (n : Nat) => decimalAt? units (leading - 1 - n) with
  | some d => d
  | none => ⟨0, 0⟩

end Binary64

/-- How a decimal is spelled. -/
structure DecimalStyle where
  /-- The least place of the leading digit that is still written positionally. -/
  leastPlace : Int
  /-- The greatest place of the leading digit that is still written positionally. -/
  greatestPlace : Int
  /-- The least number of digits of an exponent. -/
  exponentWidth : Nat
  /-- The spelling of nan. -/
  nan : String
  /-- The spelling of positive infinity. -/
  infinity : String
  /-- The spelling of negative infinity. -/
  negativeInfinity : String
  deriving Repr, DecidableEq

namespace DecimalStyle

/-- Digits filled up with zeros on the left. -/
def padLeft (width : Nat) (digits : List Char) : List Char :=
  List.replicate (width - digits.length) '0' ++ digits

/-- The digits of a positive number, its point standing after `place` of them. -/
def positional (digits : List Char) (place : Int) : List Char :=
  if place ≤ 0 then
    ['0', '.'] ++ List.replicate (-place).toNat '0' ++ digits
  else
    let whole := digits.take place.toNat ++ List.replicate (place.toNat - digits.length) '0'
    let fraction := digits.drop place.toNat
    whole ++ ['.'] ++ (if fraction.isEmpty then ['0'] else fraction)

/-- The digits of a positive number with one before the point and a power of ten. -/
def scientific (width : Nat) (digits : List Char) (place : Int) : List Char :=
  let power := place - 1
  let sign := if power < 0 then '-' else '+'
  let tail := digits.drop 1
  digits.take 1 ++ (if tail.isEmpty then [] else '.' :: tail)
    ++ ['e', sign] ++ padLeft width (Nat.toDigits 10 power.natAbs)

/-- The digits of a coefficient without the zeros at its end. -/
def significantDigits (coefficient : Nat) : List Char :=
  ((Nat.toDigits 10 coefficient).reverse.dropWhile (· == '0')).reverse

def magnitude (style : DecimalStyle) (units : Nat) : List Char :=
  if units = 0 then ['0', '.', '0']
  else
    let d := Binary64.shortest units
    let place := d.exponent + digitCount d.coefficient
    let digits := significantDigits d.coefficient
    if style.leastPlace ≤ place && place ≤ style.greatestPlace then positional digits place
    else scientific style.exponentWidth digits place

def write (style : DecimalStyle) : Binary64 → String
  | .nan => style.nan
  | .infinite true => style.negativeInfinity
  | .infinite false => style.infinity
  | .finite negative units =>
      String.ofList ((if negative then ['-'] else []) ++ style.magnitude units)

end DecimalStyle

end Formwork
