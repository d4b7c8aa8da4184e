import NoteBoard.Proofs.Calendar.Days

/-! Year, month and day of a date. A day number lies in one year, and in one month of that year, so
that a date is read off the calendar exactly as it is written on it. -/
namespace NoteBoard

namespace Calendar

/-- The number of days of a year. -/
def yearLength (leap : Bool) : Nat :=
  if leap then 366 else 365

theorem isLeap_iff {year : Int} :
    isLeap year = true ↔ year % 4 = 0 ∧ (year % 100 ≠ 0 ∨ year % 400 = 0) := by
  simp [isLeap]

theorem yearStart_succ (year : Int) :
    yearStart (year + 1) = yearStart year + yearLength (isLeap year) := by
  have hFour : (year + 1 + 3) / 4 = (year + 3) / 4 + if year % 4 = 0 then 1 else 0 := by
    split <;> omega
  have hCentury : (year + 1 + 99) / 100 =
      (year + 99) / 100 + if year % 100 = 0 then 1 else 0 := by
    split <;> omega
  have hFourth : (year + 1 + 399) / 400 =
      (year + 399) / 400 + if year % 400 = 0 then 1 else 0 := by
    split <;> omega
  -- A multiple of 400 is one of 100, and that is one of 4.
  simp only [yearStart, yearLength, isLeap_iff, hFour, hCentury, hFourth]
  split_ifs <;> omega

theorem yearStart_lt_iff {year later : Int} : yearStart year < yearStart later ↔ year < later := by
  have hMono : StrictMono yearStart := by
    refine strictMono_int_of_lt_succ fun year => ?_
    rw [yearStart_succ, yearLength]
    split <;> omega
  exact hMono.lt_iff_lt

theorem lt_yearStart_yearOf_succ (day : Int) : day < yearStart (yearOf day + 1) := by
  simp only [yearOf]
  split
  · next hGuess => simpa using hGuess
  · split
    · -- The guess from the mean length of years is at most one year early.
      simp only [yearStart] at *
      omega
    · omega

/-- A day number is of the year whose days it is among. -/
theorem yearOf_eq_iff {day year : Int} :
    yearOf day = year ↔ yearStart year ≤ day ∧ day < yearStart (year + 1) := by
  constructor
  · rintro rfl
    exact ⟨yearStart_yearOf_le day, lt_yearStart_yearOf_succ day⟩
  · rintro ⟨hStart, hEnd⟩
    have hBefore := yearStart_lt_iff.1 ((yearStart_yearOf_le day).trans_lt hEnd)
    have hAfter := yearStart_lt_iff.1 (hStart.trans_lt (lt_yearStart_yearOf_succ day))
    omega

/-- The days of so many months. -/
def total (lengths : List Nat) : Nat :=
  lengths.foldl (· + ·) 0

theorem total_cons (length : Nat) (lengths : List Nat) :
    total (length :: lengths) = length + total lengths := by
  have hAssoc : lengths.foldl (· + ·) (length + 0) = length + lengths.foldl (· + ·) 0 :=
    List.foldl_assoc
  simpa [total] using hAssoc

/-- A day of a month is split off as that day of that month. -/
theorem splitMonths_total {lengths : List Nat} {month day : Nat}
    (hDay : day < lengths.getD month 0) :
    splitMonths lengths (total (lengths.take month) + day) = (month, day) := by
  induction lengths generalizing month with
  | nil => simp at hDay
  | cons length rest ih =>
      cases month with
      | zero =>
          have hFirst : day < length := hDay
          simp [total, splitMonths, hFirst]
      | succ month =>
          have hLater : ¬length + (total (rest.take month) + day) < length := by omega
          rw [List.take_succ_cons, total_cons, Nat.add_assoc, splitMonths, if_neg hLater,
            Nat.add_sub_cancel_left, ih hDay]

/-- A day within the months is split off as a day of one of them. -/
theorem exists_splitMonths {lengths : List Nat} {day : Nat} (h : day < total lengths) :
    ∃ month left, splitMonths lengths day = (month, left) ∧ left < lengths.getD month 0 ∧
      day = total (lengths.take month) + left := by
  induction lengths generalizing day with
  | nil => simp [total] at h
  | cons length rest ih =>
      by_cases hFirst : day < length
      · exact ⟨0, day, by simp [splitMonths, hFirst], hFirst, by simp [total]⟩
      · rw [total_cons] at h
        have hRest : day - length < total rest := by omega
        obtain ⟨month, left, hSplit, hLeft, hDay⟩ := ih hRest
        refine ⟨month + 1, left, by simp [splitMonths, hFirst, hSplit], hLeft, ?_⟩
        rw [List.take_succ_cons, total_cons]
        omega

theorem total_take_add_lt {lengths : List Nat} {month day : Nat}
    (hDay : day < lengths.getD month 0) :
    total (lengths.take month) + day < total lengths := by
  induction lengths generalizing month with
  | nil => simp at hDay
  | cons length rest ih =>
      rw [total_cons]
      cases month with
      | zero => exact Nat.lt_add_right _ (by simpa [total] using hDay)
      | succ month =>
          have hRest : total (rest.take month) + day < total rest := ih hDay
          rw [List.take_succ_cons, total_cons]
          omega

theorem total_monthLengths (leap : Bool) : total (monthLengths leap) = yearLength leap := by
  cases leap <;> rfl

end Calendar

open Calendar

namespace Date

/-- The date is that of a day of the calendar, of which there are as many in a month as it is
long. -/
structure IsOn (d : Date) (year : Int) (month day : Nat) : Prop where
  month_pos : 1 ≤ month
  day_pos : 1 ≤ day
  day_le : day ≤ monthLength (isLeap year) month
  number_eq : d.number = yearStart year + monthStart (isLeap year) month + (day - 1 : Nat)

variable {d : Date} {year : Int} {month day : Nat}

theorem year_eq_iff :
    d.year = year ↔ yearStart year ≤ d.number ∧ d.number < yearStart (year + 1) :=
  yearOf_eq_iff

theorem IsOn.lt_monthLength (h : d.IsOn year month day) :
    day - 1 < (monthLengths (isLeap year)).getD (month - 1) 0 := by
  have hMonth := h.month_pos
  have hDay := h.day_pos
  have hLength := h.day_le
  rw [monthLength, if_neg (by omega)] at hLength
  omega

theorem IsOn.year_eq (h : d.IsOn year month day) : d.year = year := by
  have hDay := total_take_add_lt h.lt_monthLength
  have hNumber := h.number_eq
  rw [total_monthLengths] at hDay
  rw [year_eq_iff, yearStart_succ, hNumber, monthStart, ← total]
  omega

theorem IsOn.splitMonths_eq (h : d.IsOn year month day) :
    splitMonths (monthLengths (isLeap d.year)) d.dayOfYear = (month - 1, day - 1) := by
  have hNumber := h.number_eq
  have hDay : d.dayOfYear = monthStart (isLeap year) month + (day - 1) := by
    rw [dayOfYear, h.year_eq]
    omega
  rw [hDay, h.year_eq]
  exact splitMonths_total h.lt_monthLength

theorem isOn_self (d : Date) : d.IsOn d.year d.month d.day := by
  obtain ⟨hStart, hEnd⟩ := year_eq_iff.1 (rfl : d.year = d.year)
  rw [yearStart_succ] at hEnd
  have hDay : d.dayOfYear < total (monthLengths (isLeap d.year)) := by
    rw [total_monthLengths, dayOfYear]
    omega
  obtain ⟨month, left, hSplit, hLeft, hTotal⟩ := exists_splitMonths hDay
  have hMonth : d.month = month + 1 := by rw [Date.month, hSplit]
  have hIn : d.day = left + 1 := by rw [Date.day, hSplit]
  rw [hMonth, hIn]
  refine ⟨Nat.le_add_left 1 month, Nat.le_add_left 1 left, ?_, ?_⟩
  · simpa [monthLength] using hLeft
  · rw [monthStart, Nat.add_sub_cancel, Nat.add_sub_cancel, ← total, add_assoc, ← Nat.cast_add,
      ← hTotal, dayOfYear]
    omega

/-- Every date is on one day of the calendar. -/
theorem isOn_iff : d.IsOn year month day ↔ d.year = year ∧ d.month = month ∧ d.day = day := by
  constructor
  · intro h
    have hMonth := h.month_pos
    have hDay := h.day_pos
    refine ⟨h.year_eq, ?_, ?_⟩
    · rw [Date.month, h.splitMonths_eq]
      omega
    · rw [Date.day, h.splitMonths_eq]
      omega
  · rintro ⟨rfl, rfl, rfl⟩
    exact isOn_self d

/-- The years of dates are those the board can work with. -/
theorem year_mem (d : Date) : firstYear ≤ d.year ∧ d.year ≤ lastYear := by
  obtain ⟨hStart, hEnd⟩ := year_eq_iff.1 (rfl : d.year = d.year)
  have hFirst := yearStart_lt_iff.1 (d.first_le.trans_lt hEnd)
  have hLast := yearStart_lt_iff.1 (hStart.trans_lt (Int.lt_of_le_sub_one d.le_last))
  omega

theorem ofCivil?_eq_some_iff : ofCivil? year month day = some d ↔ d.IsOn year month day := by
  constructor
  · intro h
    have hNumber := number_of_ofCivil? h
    unfold ofCivil? at h
    split at h
    · next hIn =>
      obtain ⟨-, -, hDay, hLength⟩ := hIn
      refine ⟨?_, hDay, hLength, hNumber⟩
      by_contra hMonth
      rw [monthLength, if_pos (by omega)] at hLength
      omega
    · cases h
  · intro h
    have hYear := h.year_eq ▸ d.year_mem
    rw [ofCivil?, if_pos ⟨hYear.1, hYear.2, h.day_pos, h.day_le⟩, ← h.number_eq]
    exact ofNumber?_number d

/-- The dates from the first of a month on are on the days of that month, as far as it is long. -/
theorem IsOn.of_first {first : Date} (h : first.IsOn year month 1)
    (hFirst : first.number ≤ d.number)
    (hLength : d.number < first.number + monthLength (isLeap year) month) :
    d.IsOn year month ((d.number - first.number).toNat + 1) := by
  have hNumber := h.number_eq
  exact ⟨h.month_pos, Nat.le_add_left 1 _, by omega, by omega⟩

theorem isOn_of_startOfMonth? {first : Date} (h : d.startOfMonth? = some first) :
    first.IsOn d.year d.month 1 := by
  have hShift := shift?_eq_some_iff.1 h
  have hOn := isOn_self d
  have hNumber := hOn.number_eq
  have hDay := hOn.day_pos
  exact ⟨hOn.month_pos, le_rfl, hDay.trans hOn.day_le, by omega⟩

/-- The first of January comes first in its year. -/
theorem IsOn.number_eq_yearStart (h : d.IsOn year 1 1) : d.number = yearStart year := by
  simpa [monthStart] using h.number_eq

end Date
end NoteBoard
