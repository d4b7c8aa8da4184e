import NoteBoard.Calendar.Date

/-!
Instants of universal or wall-clock time. A leap second is the fraction of a second from one to two
at the end of the second before it.
-/

namespace NoteBoard

/-- A date with a second of the day and nanoseconds. -/
structure Instant where
  date : Date
  second : Nat
  nano : Nat
  second_lt : second < 86400
  nano_lt : nano < 2000000000
deriving DecidableEq

namespace Instant

/-- The instant of a second and nanosecond on a date, if there is one. -/
def ofParts? (date : Date) (second nano : Nat) : Option Instant :=
  if h : second < 86400 ∧ nano < 2000000000 then some ⟨date, second, nano, h.1, h.2⟩ else none

/-- Earlier in time or the same. -/
protected def le (a b : Instant) : Prop :=
  a.date.number < b.date.number ∨ a.date.number = b.date.number ∧
    (a.second < b.second ∨ a.second = b.second ∧ a.nano ≤ b.nano)

instance : LE Instant := ⟨Instant.le⟩

instance (a b : Instant) : Decidable (a ≤ b) :=
  inferInstanceAs (Decidable (_ ∨ _))

/-- Midnight at the start of a date. -/
def startOf (date : Date) : Instant :=
  ⟨date, 0, 0, by decide, by decide⟩

/-- The last millisecond of a date. -/
def endOf (date : Date) : Instant :=
  ⟨date, 86399, 999000000, by decide, by decide⟩

/-- The instant a number of whole seconds later, or earlier; the fraction stays. -/
def shiftSeconds? (t : Instant) (seconds : Int) : Option Instant := do
  let total := t.second + seconds
  let date ← t.date.shift? (total / 86400)
  ofParts? date (total % 86400).toNat t.nano

/-- The instant one millisecond earlier. Inside a leap second it stays on that second. -/
def pred? (t : Instant) : Option Instant :=
  if 1000000 ≤ t.nano then ofParts? t.date t.second (t.nano - 1000000)
  else do
    let before ← t.shiftSeconds? (-1)
    ofParts? before.date before.second (t.nano + 999000000)

/-- The day number of the first of January 1970. -/
def epochDay : Int := Calendar.yearStart 1970

/-- The instant a number of milliseconds after the start of 1970. -/
def ofEpochMillis? (millis : Int) : Option Instant := do
  let seconds := millis / 1000
  let date ← Date.ofNumber? (epochDay + seconds / 86400)
  ofParts? date (seconds % 86400).toNat ((millis % 1000).toNat * 1000000)

theorem le_refl (a : Instant) : a ≤ a := by
  show Instant.le a a
  simp [Instant.le]

end Instant

/-- The time zone of the host, in which offsets may change from instant to instant. A program stops
at an instant whose wall-clock time would lie outside the years of the calendar; nothing is said of
such a run. -/
class TimeZone where
  /-- The wall-clock time at an instant of universal time. -/
  wallClock : Instant → Instant

namespace TimeZone

/-- Universal time. -/
abbrev universal : TimeZone :=
  ⟨id⟩

/-- The zone a fixed number of seconds east of universal time, or west. -/
abbrev fixed (seconds : Int) : TimeZone :=
  ⟨fun t => (t.shiftSeconds? seconds).getD t⟩

end TimeZone
end NoteBoard
