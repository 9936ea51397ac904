import Formwork.Calendar.Date

/-! # Moments

Points in universal time, to the microsecond, and how they are written.
-/

namespace Formwork.Calendar

def microsPerSecond : Nat := 1000000

/-- A point in time: whole seconds since the start of 1970, and microseconds after that. -/
structure Moment where
  seconds : Int
  micros : Nat
  deriving Repr, DecidableEq

namespace Moment

/-- The microseconds nearest to a fraction of a second, a half going to the even one. The
    fraction is multiplied as a floating number first. -/
def microsOfFraction (fraction : Nat) : Nat :=
  match (Binary64.finite false fraction).mul (Binary64.ofInt microsPerSecond) with
  | .finite _ units => roundedQuotient units Binary64.one
  | _ => 0

/-- The moment so many seconds after the start of 1970, or before it. -/
def ofSeconds? : Binary64 → Option Moment
  | .finite negative units =>
      let whole : Int := (units / Binary64.one : Nat)
      let micros := microsOfFraction (units % Binary64.one)
      if negative then
        if micros = 0 then some ⟨-whole, 0⟩
        else some ⟨-whole - 1, microsPerSecond - micros⟩
      else if micros < microsPerSecond then some ⟨whole, micros⟩
      else some ⟨whole + 1, micros - microsPerSecond⟩
  | _ => none

def secondsPerDay : Int := 86400

/-- The count of days up to the start of 1970. -/
def epochDay : Int := 719163

/-- The count of days up to the day of a moment; not positive before the first year. -/
def day (moment : Moment) : Int := epochDay + moment.seconds.fdiv secondsPerDay

def secondOfDay (moment : Moment) : Nat := (moment.seconds.fmod secondsPerDay).toNat

def inCalendar (moment : Moment) : Bool := 1 ≤ moment.day && moment.day ≤ lastDay

/-- A number filled up with zeros to a width. -/
def padded (width n : Nat) : String :=
  String.ofList (DecimalStyle.padLeft width (Nat.toDigits 10 n))

/-- The time of day to the second. -/
def clockText (moment : Moment) : String :=
  let second := moment.secondOfDay
  padded 2 (second / 3600) ++ ":" ++ padded 2 (second / 60 % 60) ++ ":" ++ padded 2 (second % 60)

def dateText (moment : Moment) : String :=
  let (year, month, day) := dateOfDay moment.day.toNat
  padded 4 year ++ "-" ++ padded 2 month ++ "-" ++ padded 2 day

/-- Date and time in universal time; the microseconds are left out when there are none. -/
def isoText (moment : Moment) : String :=
  moment.dateText ++ "T" ++ moment.clockText
    ++ (if moment.micros = 0 then "" else "." ++ padded 6 moment.micros) ++ "+00:00"

end Moment

end Formwork.Calendar
