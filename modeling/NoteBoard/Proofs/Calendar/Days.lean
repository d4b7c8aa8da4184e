import Mathlib.Data.Int.Interval
import Mathlib.Data.Set.Card
import NoteBoard.Calendar.Instant

/-! Dates a number of days apart, the dates of a span, and where on the line of time the instants
of a date lie. Leap seconds have no place of their own on that line. -/
namespace NoteBoard

namespace Calendar

/-- The first of January is not after a day of its year. -/
theorem yearStart_yearOf_le (day : Int) : yearStart (yearOf day) ≤ day := by
  simp only [yearOf]
  split
  · -- The guess from the mean length of years is at most one year late.
    simp only [yearStart] at *
    omega
  · split <;> omega

end Calendar

open Calendar

namespace Date

theorem number_injective : Function.Injective Date.number := by
  rintro ⟨n, _, _⟩ ⟨_, _, _⟩ rfl
  rfl

theorem ofNumber?_eq_some_iff {number : Int} {d : Date} :
    ofNumber? number = some d ↔ d.number = number := by
  constructor
  · intro h
    unfold ofNumber? at h
    split at h
    · exact congrArg Date.number (Option.some.inj h).symm
    · cases h
  · rintro rfl
    exact ofNumber?_number d

theorem shift?_eq_some_iff {d e : Date} {days : Int} :
    d.shift? days = some e ↔ e.number = d.number + days :=
  ofNumber?_eq_some_iff

/-- Dates run out only where the calendar ends. -/
theorem shift?_eq_none_iff {d : Date} {days : Int} :
    d.shift? days = none ↔ d.number + days < firstDay ∨ lastDay < d.number + days := by
  unfold shift? ofNumber?
  split
  · next h => simp only [reduceCtorEq, false_iff]; omega
  · next h => simp only [true_iff]; omega

theorem number_of_ofCivil? {year : Int} {month day : Nat} {d : Date}
    (h : ofCivil? year month day = some d) :
    d.number = yearStart year + monthStart (isLeap year) month + (day - 1 : Nat) := by
  unfold ofCivil? at h
  split at h
  · exact ofNumber?_eq_some_iff.1 h
  · cases h

theorem startOfWeek?_le {d first : Date} (h : d.startOfWeek? = some first) :
    first.number ≤ d.number := by
  have hFirst := shift?_eq_some_iff.1 h
  omega

theorem startOfMonth?_le {d first : Date} (h : d.startOfMonth? = some first) :
    first.number ≤ d.number := by
  have hFirst := shift?_eq_some_iff.1 h
  have hDay : 1 ≤ d.day := Nat.le_add_left 1 _
  omega

/-- The dates from one to another, both included. -/
def span (first last : Date) : Set Date :=
  {d | first.number ≤ d.number ∧ d.number ≤ last.number}

theorem ncard_span {first last : Date} (h : first.number ≤ last.number) :
    ((span first last).ncard : Int) = first.daysUntil last + 1 := by
  have hImage : Date.number '' span first last = Finset.Icc first.number last.number := by
    ext n
    rw [Finset.coe_Icc, Set.mem_image, Set.mem_Icc]
    constructor
    · rintro ⟨d, hd, rfl⟩
      exact hd
    · rintro ⟨hFirst, hLast⟩
      have hAfter := first.first_le
      have hBefore := last.le_last
      exact ⟨⟨n, by omega, by omega⟩, ⟨hFirst, hLast⟩, rfl⟩
  rw [← Set.ncard_image_of_injective _ number_injective, hImage, Set.ncard_coe_finset,
    Int.card_Icc, daysUntil]
  omega

end Date

namespace Instant

/-- The place of an instant on the line of time, in nanoseconds. -/
def place (t : Instant) : Int :=
  (86400 * t.date.number + t.second) * 1000000000 + t.nano

/-- A whole count of milliseconds, outside leap seconds. -/
def IsWhole (t : Instant) : Prop :=
  t.nano < 1000000000 ∧ t.nano % 1000000 = 0

theorem le_iff {a b : Instant} : a ≤ b ↔
    a.date.number < b.date.number ∨ a.date.number = b.date.number ∧
      (a.second < b.second ∨ a.second = b.second ∧ a.nano ≤ b.nano) :=
  Iff.rfl

theorem startOf_le_iff {d : Date} {t : Instant} : startOf d ≤ t ↔ d.number ≤ t.date.number := by
  rw [le_iff]
  simp only [startOf]
  omega

theorem IsWhole.le_endOf_iff {t : Instant} (h : t.IsWhole) {d : Date} :
    t ≤ endOf d ↔ t.date.number ≤ d.number := by
  obtain ⟨hLeap, hWhole⟩ := h
  have hSecond := t.second_lt
  rw [le_iff]
  simp only [endOf]
  omega

/-- A millisecond before a date begins, the date before it ends. -/
theorem pred?_startOf (d : Date) : (startOf d).pred? = (d.shift? (-1)).map endOf := by
  cases h : d.shift? (-1) with
  | none => simp [pred?, startOf, shiftSeconds?, h]
  | some before => simp [pred?, startOf, endOf, shiftSeconds?, ofParts?, h]

theorem place_endOf {before d : Date} (h : d.number = before.number + 1) :
    (endOf before).place + 1000000 = (startOf d).place := by
  simp only [place, endOf, startOf, h]
  omega

end Instant
end NoteBoard
