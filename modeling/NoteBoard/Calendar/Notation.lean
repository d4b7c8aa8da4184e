import NoteBoard.Calendar.Instant
import NoteBoard.Number.Numeral

/-!
The written form of dates and instants: `2024-03-10` and `2024-03-10T23:59:59.999`.
-/

namespace NoteBoard

open Numeral (digits)

/-- A year has four digits, with a sign outside the years 0 to 9999. -/
def yearText (year : Int) : List Char :=
  if 0 ≤ year ∧ year ≤ 9999 then digits 4 year.natAbs
  else (if year < 0 then '-' else '+') :: digits 4 year.natAbs

def Date.chars (d : Date) : List Char :=
  yearText d.year ++ '-' :: digits 2 d.month ++ '-' :: digits 2 d.day

/-- A fraction of a second, in the fewest of zero, three, six and nine places. -/
def fractionText (nano : Nat) : List Char :=
  if nano = 0 then []
  else if nano % 1000000 = 0 then '.' :: digits 3 (nano / 1000000)
  else if nano % 1000 = 0 then '.' :: digits 6 (nano / 1000)
  else '.' :: digits 9 nano

/-- A leap second is written as second 60. -/
def Instant.clock (t : Instant) : List Char :=
  let leap := t.nano / 1000000000
  digits 2 (t.second / 3600) ++ ':' :: digits 2 (t.second / 60 % 60) ++
    ':' :: digits 2 (t.second % 60 + leap) ++ fractionText (t.nano % 1000000000)

def Date.text (d : Date) : String :=
  String.ofList d.chars

def Instant.text (t : Instant) : String :=
  String.ofList (t.date.chars ++ 'T' :: t.clock)

end NoteBoard
