/-!
Dates of the Gregorian calendar, extended to all years, as day numbers. Arithmetic on dates is
arithmetic on the numbers; year, month and day are read off them.
-/

namespace NoteBoard

namespace Calendar

/-- The day number of the first of January of a year. Day 0 is that of the year 0. -/
def yearStart (year : Int) : Int :=
  365 * year + (year + 3) / 4 - (year + 99) / 100 + (year + 399) / 400

/-- Every fourth year has a leap day, of the centuries every fourth. -/
def isLeap (year : Int) : Bool :=
  year % 4 == 0 && (year % 100 != 0 || year % 400 == 0)

/-- The lengths of the months of a year. -/
def monthLengths (leap : Bool) : List Nat :=
  [31, if leap then 29 else 28, 31, 30, 31, 30, 31, 31, 30, 31, 30, 31]

/-- The day of the year on which a month begins, from zero; months count from one. -/
def monthStart (leap : Bool) (month : Nat) : Nat :=
  ((monthLengths leap).take (month - 1)).foldl (· + ·) 0

/-- The length of a month, zero if there is no such month. -/
def monthLength (leap : Bool) (month : Nat) : Nat :=
  if month = 0 then 0 else (monthLengths leap).getD (month - 1) 0

/-- The year of a day number. -/
def yearOf (day : Int) : Int :=
  let guess := day * 400 / 146097
  if day < yearStart guess then guess - 1
  else if yearStart (guess + 1) ≤ day then guess + 1
  else guess

/-- Splits a day of the year into months passed and days passed in the month. -/
def splitMonths : List Nat → Nat → Nat × Nat
  | [], day => (0, day)
  | length :: rest, day =>
    if day < length then (0, day)
    else
      let (months, left) := splitMonths rest (day - length)
      (months + 1, left)

/-- The years the board can work with. -/
def firstYear : Int := -262143

def lastYear : Int := 262142

/-- The day numbers of those years. -/
def firstDay : Int := yearStart firstYear

def lastDay : Int := yearStart (lastYear + 1) - 1

end Calendar

open Calendar

/-- A date within the years the board can work with. -/
structure Date where
  number : Int
  first_le : firstDay ≤ number
  le_last : number ≤ lastDay
deriving DecidableEq

namespace Date

/-- The date with a day number. -/
def ofNumber? (number : Int) : Option Date :=
  if h : firstDay ≤ number ∧ number ≤ lastDay then some ⟨number, h.1, h.2⟩ else none

/-- The date of year, month and day, both counted from one. -/
def ofCivil? (year : Int) (month day : Nat) : Option Date :=
  if firstYear ≤ year ∧ year ≤ lastYear ∧ 1 ≤ day ∧ day ≤ monthLength (isLeap year) month then
    ofNumber? (yearStart year + monthStart (isLeap year) month + (day - 1 : Nat))
  else none

def year (d : Date) : Int :=
  yearOf d.number

/-- The day of the year, from zero. -/
def dayOfYear (d : Date) : Nat :=
  (d.number - yearStart d.year).toNat

def month (d : Date) : Nat :=
  (splitMonths (monthLengths (isLeap d.year)) d.dayOfYear).1 + 1

def day (d : Date) : Nat :=
  (splitMonths (monthLengths (isLeap d.year)) d.dayOfYear).2 + 1

/-- The day of the week, from Monday as zero. -/
def weekday (d : Date) : Nat :=
  ((d.number + 5) % 7).toNat

/-- The date a number of days later, or earlier. -/
def shift? (d : Date) (days : Int) : Option Date :=
  ofNumber? (d.number + days)

/-- The first date of the month. -/
def startOfMonth? (d : Date) : Option Date :=
  d.shift? (1 - (d.day : Int))

/-- The Monday of the week. -/
def startOfWeek? (d : Date) : Option Date :=
  d.shift? (-(d.weekday : Int))

/-- The days from one date to another, the later one less the earlier one. -/
def daysUntil (first last : Date) : Int :=
  last.number - first.number

theorem ofNumber?_number (d : Date) : ofNumber? d.number = some d := by
  simp [ofNumber?, d.first_le, d.le_last]

end Date
end NoteBoard
