import NoteBoard.Proofs.Calendar.Civil
import NoteBoard.Proofs.Window.Earlier

/-! Weeks, months and years. A window up to now begins with the period that now lies in, and the
window of the last period is the whole of the period before that one. -/
namespace NoteBoard

open Calendar

namespace Period

/-- The date is a Monday, the first of a month or the first of January. -/
def Begins : Period → Date → Prop
  | .week, d => d.weekday = 0
  | .month, d => d.day = 1
  | .year, d => d.month = 1 ∧ d.day = 1

/-- The number of days of the period that begins with a date. -/
def length : Period → Date → Nat
  | .week, _ => 7
  | .month, first => monthLength (isLeap first.year) first.month
  | .year, first => yearLength (isLeap first.year)

/-- The first date of the period that a date lies in: no later one up to that date begins one. -/
structure IsStart (period : Period) (first today : Date) : Prop where
  begins : period.Begins first
  le : first.number ≤ today.number
  latest : ∀ d, period.Begins d → d.number ≤ today.number → d.number ≤ first.number

/-- The date is one of those of the period that begins with another. -/
structure Covers (period : Period) (first d : Date) : Prop where
  begins : period.Begins first
  le : first.number ≤ d.number
  lt : d.number < first.number + period.length first

variable {period : Period} {first d : Date}

theorem covers_week (h : first.number = d.number - d.weekday) : week.Covers first d := by
  simp only [Date.weekday] at h
  refine ⟨?_, by omega, ?_⟩
  · simp only [Begins, Date.weekday]
    omega
  · simp only [length]
    omega

theorem covers_month (h : first.IsOn d.year d.month 1) : month.Covers first d := by
  obtain ⟨hYear, hMonth, hDay⟩ := Date.isOn_iff.1 h
  have hStart := h.number_eq
  have hOn := Date.isOn_self d
  have hNumber := hOn.number_eq
  have hPos := hOn.day_pos
  have hLength := hOn.day_le
  refine ⟨hDay, by omega, ?_⟩
  rw [length, hYear, hMonth]
  omega

theorem covers_year (h : first.IsOn d.year 1 1) : year.Covers first d := by
  obtain ⟨hYear, hDate⟩ := Date.isOn_iff.1 h
  obtain ⟨hStart, hEnd⟩ := Date.year_eq_iff.1 (rfl : d.year = d.year)
  rw [yearStart_succ] at hEnd
  rw [← h.number_eq_yearStart] at hStart hEnd
  exact ⟨hDate, hStart, by rwa [length, hYear]⟩

/-- No other period begins within one. -/
theorem Covers.eq_of_begins (h : period.Covers first d) (hBegins : period.Begins d) :
    d = first := by
  obtain ⟨hFirst, hAfter, hWithin⟩ := h
  apply Date.number_injective
  cases period with
  | week =>
      simp only [Begins, Date.weekday] at hFirst hBegins
      simp only [length] at hWithin
      omega
  | month =>
      have hOn : first.IsOn first.year first.month 1 := Date.isOn_iff.2 ⟨rfl, rfl, hFirst⟩
      have hDay := (Date.isOn_iff.1 (hOn.of_first hAfter hWithin)).2.2
      simp only [Begins] at hBegins
      omega
  | year =>
      have hOn : first.IsOn first.year 1 1 := Date.isOn_iff.2 ⟨rfl, hFirst⟩
      have hNumber := hOn.number_eq_yearStart
      have hYear : d.year = first.year := by
        rw [Date.year_eq_iff, yearStart_succ]
        exact ⟨hNumber ▸ hAfter, hNumber ▸ hWithin⟩
      have hSame : d.IsOn first.year 1 1 := Date.isOn_iff.2 ⟨hYear, hBegins⟩
      rw [hNumber, hSame.number_eq_yearStart]

theorem Covers.isStart (h : period.Covers first d) : period.IsStart first d where
  begins := h.begins
  le := h.le
  latest := by
    intro e hBegins hBefore
    by_contra hLater
    have hCovers : period.Covers first e := ⟨h.begins, by omega, hBefore.trans_lt h.lt⟩
    have hSame := hCovers.eq_of_begins hBegins
    exact hLater (hSame ▸ le_rfl)

/-- Where the date after one of a period begins a period, the first is over. -/
theorem Covers.number_eq {next : Date} (h : period.Covers first d) (hBegins : period.Begins next)
    (hNext : next.number = d.number + 1) : next.number = first.number + period.length first := by
  have hBefore := h.le
  have hAfter := h.lt
  by_contra hOther
  have hCovers : period.Covers first next := ⟨h.begins, by omega, by omega⟩
  have hSame := hCovers.eq_of_begins hBegins
  rw [hSame] at hNext
  omega

end Period

namespace Timeframe

variable {period : Period} {today first before last : Date}

theorem covers_of_periodStart? (h : periodStart? period today = some first) :
    period.Covers first today := by
  cases period with
  | week => exact Period.covers_week (Date.shift?_eq_some_iff.1 h)
  | month => exact Period.covers_month (Date.isOn_of_startOfMonth? h)
  | year => exact Period.covers_year (Date.ofCivil?_eq_some_iff.1 h)

/-- The last period is that of the date before the current one begins. -/
theorem covers_of_lastPeriod? (hFirst : periodStart? period today = some first)
    (h : lastPeriod? period today = some (before, last)) :
    period.Covers before last ∧ first.number = last.number + 1 := by
  have hCases := lastPeriod?_cases h
  cases period with
  | week =>
      obtain ⟨monday, hMonday, hBefore, hLast⟩ := hCases
      obtain rfl := Option.some.inj (hMonday.symm.trans hFirst)
      have hMonday := (covers_of_periodStart? hFirst).begins
      have hBefore := Date.shift?_eq_some_iff.1 hBefore
      have hLast := Date.shift?_eq_some_iff.1 hLast
      simp only [Period.Begins, Date.weekday] at hMonday
      have hSunday : (last.weekday : Int) = 6 := by
        simp only [Date.weekday]
        omega
      exact ⟨Period.covers_week (by omega), by omega⟩
  | month =>
      obtain ⟨start, hStart, hLast, hBefore⟩ := hCases
      obtain rfl := Option.some.inj (hStart.symm.trans hFirst)
      have hLast := Date.shift?_eq_some_iff.1 hLast
      exact ⟨Period.covers_month (Date.isOn_of_startOfMonth? hBefore), by omega⟩
  | year =>
      obtain ⟨hBefore, hLast⟩ := hCases
      have hFirst := Date.ofCivil?_eq_some_iff.1 hFirst
      have hBefore := Date.ofCivil?_eq_some_iff.1 hBefore
      have hLast := Date.ofCivil?_eq_some_iff.1 hLast
      have hDecember : ∀ leap, monthStart leap 12 + 31 = yearLength leap := by decide
      have hLength := hDecember (isLeap (today.year - 1))
      have hYears := yearStart_succ (today.year - 1)
      have hNumber := hLast.number_eq
      rw [Int.sub_add_cancel, ← hFirst.number_eq_yearStart] at hYears
      exact ⟨Period.covers_year (hLast.year_eq ▸ hBefore), by omega⟩

/-- One window is that of the period an instant lies in, from its first date up to that instant. The
other is that of the whole period before, from its first date to its last. -/
structure ArePeriods (period : Period) (now : Instant) (current previous : Window)
    (first before last : Date) : Prop where
  contains_now : current.contains now = true
  start_eq : current.start = some (Instant.startOf first)
  isStart : period.IsStart first now.date
  finish_eq : current.finish = some now
  previous_start_eq : previous.start = some (Instant.startOf before)
  previous_isStart : period.IsStart before last
  previous_finish_eq : previous.finish = some (Instant.endOf last)
  /-- There is a millisecond between the two. -/
  abuts : (Instant.endOf last).place + 1000000 = (Instant.startOf first).place
  days_eq : previous.days = some (period.length before : Int)

variable {now : Instant}

theorem current_cases (h : (current period now).isBounded = true) :
    ∃ first, periodStart? period now.date = some first ∧
      current period now =
        ⟨some (Instant.startOf first), some now, some (first.daysUntil now.date + 1)⟩ := by
  unfold current at h ⊢
  cases hFirst : periodStart? period now.date with
  | none => simp [hFirst, Window.always, Window.isBounded] at h
  | some first => exact ⟨first, rfl, rfl⟩

theorem previous_cases (h : (previous period today).isBounded = true) :
    ∃ before last, lastPeriod? period today = some (before, last) ∧
      previous period today = between (some before) (some last) := by
  unfold previous at h ⊢
  cases hLast : lastPeriod? period today with
  | none => simp [hLast, Window.always, Window.isBounded] at h
  | some dates => exact ⟨dates.1, dates.2, rfl, rfl⟩

theorem arePeriods (hFirst : periodStart? period now.date = some first)
    (hLast : lastPeriod? period now.date = some (before, last)) :
    ArePeriods period now
      ⟨some (Instant.startOf first), some now, some (first.daysUntil now.date + 1)⟩
      (between (some before) (some last)) first before last := by
  have hCovers := covers_of_periodStart? hFirst
  obtain ⟨hBefore, hNext⟩ := covers_of_lastPeriod? hFirst hLast
  refine ⟨?_, rfl, hCovers.isStart, rfl, rfl, hBefore.isStart, rfl, Instant.place_endOf hNext, ?_⟩
  · simp [Window.contains, Instant.startOf_le_iff, hCovers.le, Instant.le_refl]
  · have hLength := hBefore.number_eq hCovers.begins hNext
    refine congrArg some ?_
    simp only [Date.daysUntil]
    omega

theorem resolve_of_chosen? {f : Timeframe} {presets : List Preset} {preset : Preset}
    (h : f.chosen? presets = some preset) :
    f.resolve presets now = ofKind now preset.kind := by
  unfold chosen? at h
  split at h
  · cases h
  · next hOwn =>
    simp only [resolve, if_neg hOwn, h]

/-- The windows of the current and of the last week, month or year belong to the calendar, whatever
the presets are named and wherever in it now is. -/
theorem resolve_periods {presets : List Preset} {f g : Timeframe} {current last : Preset}
    (hThis : f.chosen? presets = some current) (hCurrent : current.kind = .calendar true period)
    (hLast : g.chosen? presets = some last) (hPrevious : last.kind = .calendar false period)
    (hBounded : (f.resolve presets now).isBounded = true)
    (hBounded' : (g.resolve presets now).isBounded = true) :
    ∃ first before finish,
      ArePeriods period now (f.resolve presets now) (g.resolve presets now) first before finish := by
  rw [resolve_of_chosen? hThis, hCurrent] at hBounded ⊢
  rw [resolve_of_chosen? hLast, hPrevious] at hBounded' ⊢
  obtain ⟨first, hFirst, hWindow⟩ := current_cases hBounded
  obtain ⟨before, finish, hDates, hWindow'⟩ := previous_cases hBounded'
  rw [ofKind, ofKind, hWindow, hWindow']
  exact ⟨first, before, finish, arePeriods hFirst hDates⟩

/-- In March the last month is February, which has a leap day in 2024. -/
theorem lastMonth_arePeriods :
    let thisMonth := resolve ⟨"this-month", none, none⟩ Preset.defaults lunch
    let lastMonth := resolve ⟨"last-month", none, none⟩ Preset.defaults lunch
    (∃ first before finish, ArePeriods .month lunch thisMonth lastMonth first before finish) ∧
      thisMonth.start.map Instant.text = some "2024-03-01T00:00:00" ∧
      lastMonth.start.map Instant.text = some "2024-02-01T00:00:00" ∧
      lastMonth.finish.map Instant.text = some "2024-02-29T23:59:59.999" ∧
      lastMonth.days = some 29 := by
  have hThis : chosen? ⟨"this-month", none, none⟩ Preset.defaults =
      some ⟨"this-month", "This month", .calendar true .month⟩ := by decide +kernel
  have hLast : chosen? ⟨"last-month", none, none⟩ Preset.defaults =
      some ⟨"last-month", "Last month", .calendar false .month⟩ := by decide +kernel
  refine ⟨resolve_periods hThis rfl hLast rfl ?_ ?_, ?_⟩ <;> decide +kernel

end Timeframe
end NoteBoard
