/-! # Binary floating-point numbers

The 64-bit binary format as a plain data type. A finite number counts units of
2⁻¹⁰⁷⁴, the smallest positive one, so an operation is exact arithmetic on whole
numbers followed by a single rounding. Numbers of both kinds, whole and
floating, are ordered through their common position on the line of units, which
makes comparison exact at any size.
-/

namespace Formwork

/-- A 64-bit binary floating-point number. -/
inductive Binary64 where
  /-- Not a number. -/
  | nan
  /-- An infinity. -/
  | infinite (negative : Bool)
  /-- A finite number, as a count of units of 2⁻¹⁰⁷⁴. -/
  | finite (negative : Bool) (units : Nat)
  deriving Repr, DecidableEq, Inhabited

/-- A place on the extended line of units of 2⁻¹⁰⁷⁴. -/
inductive Position where
  | below
  | at (units : Int)
  | above
  deriving Repr, DecidableEq

namespace Position

/-- Strictly to the left of. -/
def before : Position → Position → Bool
  | .below, .below => false
  | .below, _ => true
  | .at a, .at b => decide (a < b)
  | .at _, .above => true
  | _, _ => false

end Position

/-- A quotient of naturals rounded to the nearest natural; a half goes to the even one. -/
def roundedQuotient (num den : Nat) : Nat :=
  let whole := num / den
  let doubled := 2 * (num % den)
  if doubled < den then whole
  else if den < doubled then whole + 1
  else whole + whole % 2

namespace Binary64

/-- How many units make one, as a power of two. -/
def unitBits : Nat := 1074

/-- Units in one. -/
def one : Nat := Nat.pow 2 unitBits

/-- The count of units at which the finite numbers end. -/
def overflow : Nat := Nat.pow 2 2098

/-- Bits of a count of units that lie beyond the 53 that a number can hold. -/
def excessBits (units : Nat) : Nat := units.log2 - 52

/-- The number nearest to a count of units given as a quotient. -/
def ofUnits (negative : Bool) (num den : Nat) : Binary64 :=
  let step := Nat.pow 2 (excessBits (num / den))
  let units := roundedQuotient num (den * step) * step
  if units < overflow then .finite negative units else .infinite negative

/-- The number nearest to a quotient. -/
def ofRatio (negative : Bool) (num den : Nat) : Binary64 :=
  ofUnits negative (num * one) den

/-- The number nearest to a whole number. -/
def ofInt (n : Int) : Binary64 :=
  ofRatio (decide (n < 0)) n.natAbs 1

/-- Zero, the positive one. -/
def zero : Binary64 := .finite false 0

/-- The place on the line; nan has none. -/
def position? : Binary64 → Option Position
  | .nan => none
  | .infinite true => some .below
  | .infinite false => some .above
  | .finite true units => some (.at (-units))
  | .finite false units => some (.at units)

/-- The place of a whole number on the line of units. -/
def positionOfInt (n : Int) : Position := .at (n * one)

/-- Neither nan nor infinite. -/
def isFinite : Binary64 → Bool
  | .finite _ _ => true
  | _ => false

/-- The whole number that a finite number without a fraction is. -/
def toInt? : Binary64 → Option Int
  | .finite negative units =>
      if units % one == 0 then
        some (if negative then -(units / one : Nat) else (units / one : Nat))
      else none
  | _ => none

def neg : Binary64 → Binary64
  | .nan => .nan
  | .infinite negative => .infinite (!negative)
  | .finite negative units => .finite (!negative) units

/-- The signed count of units of a finite number. -/
def signedUnits (negative : Bool) (units : Nat) : Int :=
  if negative then -(units : Int) else units

def add : Binary64 → Binary64 → Binary64
  | .nan, _ | _, .nan => .nan
  | .infinite a, .infinite b => if a == b then .infinite a else .nan
  | .infinite a, .finite _ _ => .infinite a
  | .finite _ _, .infinite b => .infinite b
  | .finite a m, .finite b n =>
      let sum := signedUnits a m + signedUnits b n
      if sum = 0 then .finite (a && b) 0
      else ofUnits (decide (sum < 0)) sum.natAbs 1

def sub (x y : Binary64) : Binary64 := x.add y.neg

def mul : Binary64 → Binary64 → Binary64
  | .nan, _ | _, .nan => .nan
  | .infinite a, .infinite b => .infinite (a != b)
  | .infinite a, .finite b n => if n = 0 then .nan else .infinite (a != b)
  | .finite a m, .infinite b => if m = 0 then .nan else .infinite (a != b)
  | .finite a m, .finite b n => ofUnits (a != b) (m * n) one

end Binary64

end Formwork
