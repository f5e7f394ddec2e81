-- The Gregorian calendar, carried on without end in both directions. Days are
-- counted from 1970-01-01. Years are laid out from March, so that the leap day
-- is the last day of its year.

namespace CrashReporter.Time

structure Date where
  year : Int
  month : Nat
  day : Nat
deriving DecidableEq, Repr

def isLeap (year : Int) : Bool := year % 4 = 0 && (year % 100 ≠ 0 || year % 400 = 0)

def daysInMonth (year : Int) (month : Nat) : Nat :=
  match month with
  | 2 => if isLeap year then 29 else 28
  | 4 | 6 | 9 | 11 => 30
  | _ => 31

/-- The day number of a date. -/
def dayNumber (d : Date) : Int :=
  let year := if d.month ≤ 2 then d.year - 1 else d.year
  let era := year / 400
  let yearOfEra := year % 400
  let month : Int := (d.month + 9) % 12
  let dayOfYear := (153 * month + 2) / 5 + d.day - 1
  era * 146097 + yearOfEra * 365 + yearOfEra / 4 - yearOfEra / 100 + dayOfYear - 719468

/-- The date with a day number. -/
def dateOf (number : Int) : Date :=
  let days := number + 719468
  let era := days / 146097
  let dayOfEra := days % 146097
  let yearOfEra := (dayOfEra - dayOfEra / 1460 + dayOfEra / 36524 - dayOfEra / 146096) / 365
  let dayOfYear := dayOfEra - (365 * yearOfEra + yearOfEra / 4 - yearOfEra / 100)
  let month := (5 * dayOfYear + 2) / 153
  let day := dayOfYear - (153 * month + 2) / 5 + 1
  let month := if month < 10 then month + 3 else month - 9
  let year := yearOfEra + era * 400 + if month ≤ 2 then 1 else 0
  ⟨year, month.toNat, day.toNat⟩

/-- The years that an instant can lie in. -/
def firstYear : Int := -262143
def lastYear : Int := 262142

/-- The date, if there is such a day in a year that an instant can lie in. -/
def date? (year : Int) (month day : Nat) : Option Date :=
  if firstYear ≤ year ∧ year ≤ lastYear ∧ 1 ≤ month ∧ month ≤ 12 ∧
      1 ≤ day ∧ day ≤ daysInMonth year month then
    some ⟨year, month, day⟩
  else none

def firstDay : Int := dayNumber ⟨firstYear, 1, 1⟩
def lastDay : Int := dayNumber ⟨lastYear, 12, 31⟩

end CrashReporter.Time
