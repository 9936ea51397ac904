import Formwork.Number.Decimal

/-! # Calendar dates

Dates of the Gregorian calendar, extended to all years from 1 to 9999, as counts of days
in which the first of January of year one is day one. Dates are read in the ISO forms: year,
month and day, or year, week and day of the week, with dashes or without.
-/

namespace Formwork.Calendar

def isLeapYear (year : Nat) : Bool := year % 4 == 0 && (year % 100 != 0 || year % 400 == 0)

def daysInMonth (year month : Nat) : Nat :=
  if month == 2 then (if isLeapYear year then 29 else 28)
  else if month == 4 || month == 6 || month == 9 || month == 11 then 30
  else 31

/-- How many days lie before a year. -/
def daysBeforeYear (year : Nat) : Nat :=
  let past := year - 1
  past * 365 + past / 4 - past / 100 + past / 400

/-- How many days of a year lie before a month. -/
def daysBeforeMonth (year month : Nat) : Nat :=
  (List.range (month - 1)).foldl (fun days earlier => days + daysInMonth year (earlier + 1)) 0

def lastYear : Nat := 9999

def lastDay : Nat := daysBeforeYear (lastYear + 1)

/-- The count of days up to a date, if there is such a date. -/
def dayOfDate? (year month day : Nat) : Option Nat :=
  if 1 ≤ year && year ≤ lastYear && 1 ≤ month && month ≤ 12
      && 1 ≤ day && day ≤ daysInMonth year month then
    some (daysBeforeYear year + daysBeforeMonth year month + day)
  else none

/-- The day of the week, from Monday as zero, that a year starts with. -/
def firstWeekday (year : Nat) : Nat := (daysBeforeYear year + 7) % 7

/-- Whether a year has a 53rd week. -/
def hasLongCalendar (year : Nat) : Bool :=
  firstWeekday year == 3 || (firstWeekday year == 2 && isLeapYear year)

/-- The Monday of a year's first week, which is the week of its first Thursday. -/
def firstMonday (year : Nat) : Int :=
  let newYear : Int := daysBeforeYear year + 1
  let monday := newYear - firstWeekday year
  if 3 < firstWeekday year then monday + 7 else monday

/-- The count of days up to a day of a week, if there is such a day. -/
def dayOfWeekDate? (year week weekday : Nat) : Option Nat :=
  let weeks := if hasLongCalendar year then 53 else 52
  let day := firstMonday year + (week - 1) * 7 + weekday - 1
  if 1 ≤ year && year ≤ lastYear && 1 ≤ week && week ≤ weeks && 1 ≤ weekday && weekday ≤ 7
      && 1 ≤ day && day ≤ lastDay then
    some day.toNat
  else none

def yearOfDay (day : Nat) : Nat :=
  -- 146097 days make 400 years, so the guess is at most one year off
  let guess := (day - 1) * 400 / 146097 + 1
  if day ≤ daysBeforeYear guess then guess - 1
  else if daysBeforeYear (guess + 1) < day then guess + 1
  else guess

def monthOfYearDay (year yearDay : Nat) : Nat :=
  ((List.range 12).filter fun month => daysBeforeMonth year (month + 1) < yearDay).length

/-- The year, the month and the day of the month that a count of days leads up to. -/
def dateOfDay (day : Nat) : Nat × Nat × Nat :=
  let year := yearOfDay day
  let yearDay := day - daysBeforeYear year
  let month := monthOfYearDay year yearDay
  (year, month, yearDay - daysBeforeMonth year month)

/-- Exactly so many digits at the front of a text, and the text after them. -/
def takeDigits? (count : Nat) (text : List Char) : Option (Nat × List Char) :=
  let digits := text.take count
  if digits.length == count && digits.all isAsciiDigit then
    some (digitsValue digits, text.drop count)
  else none

def skipDash? (dashes : Bool) (text : List Char) : Option (List Char) :=
  if !dashes then some text
  else match text with
    | '-' :: rest => some rest
    | _ => none

/-- The day that the rest of a date names, after its year. What follows a date without
    dashes is not looked at. -/
def dayAfterYear? (year : Nat) (text : List Char) : Option Nat := do
  let dashes := text.head? == some '-'
  let text ← skipDash? dashes text
  match text with
  | 'W' :: text => do
      let (week, text) ← takeDigits? 2 text
      if text.isEmpty then dayOfWeekDate? year week 1
      else
        let text ← skipDash? dashes text
        let (weekday, _) ← takeDigits? 1 text
        dayOfWeekDate? year week weekday
  | text => do
      let (month, text) ← takeDigits? 2 text
      let text ← skipDash? dashes text
      let (day, _) ← takeDigits? 2 text
      dayOfDate? year month day

/-- The day that a text names, as a count of days. A date takes seven, eight or ten
    bytes. -/
def dayOfText? (text : String) : Option Nat :=
  if [7, 8, 10].contains text.utf8ByteSize then do
    let (year, rest) ← takeDigits? 4 text.toList
    dayAfterYear? year rest
  else none

end Formwork.Calendar
