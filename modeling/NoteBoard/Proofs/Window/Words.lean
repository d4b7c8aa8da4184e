import NoteBoard.Proofs.Calendar.Days
import NoteBoard.Window.Timeframe

/-! Windows in the arithmetic of 64-bit words. Every sum, difference and change of sign is refused
if it does not fit; none is, since an offset enters a sum only once it has led to a date. How the
calendar gets from one date to another is left to it. -/
namespace NoteBoard

namespace Word

def sub? (a b : Int) : Option Int :=
  if fitsSigned64 (a - b) then some (a - b) else none

def add? (a b : Int) : Option Int :=
  if fitsSigned64 (a + b) then some (a + b) else none

/-- The count of the numbers from one to another, both included. -/
def count? (low high : Int) : Option Int := do
  add? (← sub? high low) 1

theorem fits_of_bounds {n : Int} (hLow : -1000000000 ≤ n) (hHigh : n ≤ 1000000000) :
    fitsSigned64 n = true := by
  have hRoom : (1000000000 : Int) < twoTo 63 := by decide
  rw [fitsSigned64, decide_eq_true_eq]
  omega

end Word

/-- Dates are few enough for a word of 64 bits, even one of 32. -/
theorem Date.number_bounds (d : Date) : -100000000 ≤ d.number ∧ d.number ≤ 100000000 := by
  have hFirst : -100000000 ≤ Calendar.firstDay := by decide
  have hLast : Calendar.lastDay ≤ 100000000 := by decide
  exact ⟨hFirst.trans d.first_le, d.le_last.trans hLast⟩

namespace Timeframe

open Word

def betweenInWords? : Option Date → Option Date → Option Window
  | some first, some last => do
    return { between (some first) (some last) with days := some (← count? first.number last.number) }
  | first, last => some (between first last)

def ofBoundsInWords? (start finish : Option String) : Option Window :=
  match start.bind Calendar.typedDate?, finish.bind Calendar.typedDate? with
  | some first, some last =>
    if last.number < first.number then betweenInWords? (some last) (some first)
    else betweenInWords? (some first) (some last)
  | first, last => betweenInWords? first last

/-- Here the days are counted by the offsets, and only if both of them lead to a date. -/
def relativeInWords? (start finish : Int) (today : Date) : Option Window :=
  let low := min start finish
  let high := max start finish
  match today.shift? low, today.shift? high with
  | some first, some last => do
    return { between (some first) (some last) with days := some (← count? low high) }
  | first, last => some (between first last)

/-- The outer option is the one of arithmetic, the inner one that of the calendar. -/
def startOfWeekInWords? (today : Date) : Option (Option Date) := do
  return today.shift? (← sub? 0 today.weekday)

def periodStartInWords? (period : Period) (today : Date) : Option (Option Date) :=
  match period with
  | .week => startOfWeekInWords? today
  | period => some (periodStart? period today)

def currentInWords? (period : Period) (now : Instant) : Option Window := do
  match ← periodStartInWords? period now.date with
  | some first =>
    return ⟨some (Instant.startOf first), some now, some (← count? first.number now.date.number)⟩
  | none => return Window.always

def lastPeriodInWords? (period : Period) (today : Date) : Option (Option (Date × Date)) :=
  match period with
  | .week => do
    let monday? ← startOfWeekInWords? today
    return do
      let monday ← monday?
      return (← monday.shift? (-7), ← monday.shift? (-1))
  | period => some (lastPeriod? period today)

def previousInWords? (period : Period) (today : Date) : Option Window := do
  match ← lastPeriodInWords? period today with
  | some (first, last) => betweenInWords? (some first) (some last)
  | none => return Window.always

def ofKindInWords? (now : Instant) : PresetKind → Option Window
  | .all => some Window.always
  | .relative start finish => relativeInWords? start finish now.date
  | .calendar true period => currentInWords? period now
  | .calendar false period => previousInWords? period now.date

/-- The window of a stored choice, if no number on the way to it leaves the words. -/
def resolveInWords? (f : Timeframe) (presets : List Preset) (now : Instant) : Option Window :=
  let id := Text.trim f.preset
  if id = Preset.customId then ofBoundsInWords? f.start f.finish
  else match presets.find? (·.id == id) with
    | some preset => ofKindInWords? now preset.kind
    | none => some Window.always

/-- Dates are counted within the words. -/
theorem count?_dates (first last : Date) :
    count? first.number last.number = some (first.daysUntil last + 1) := by
  have hFirst := first.number_bounds
  have hLast := last.number_bounds
  have hApart : fitsSigned64 (last.number - first.number) = true :=
    fits_of_bounds (by omega) (by omega)
  have hCount : fitsSigned64 (last.number - first.number + 1) = true :=
    fits_of_bounds (by omega) (by omega)
  simp only [count?, sub?, add?, hApart, hCount, Date.daysUntil, if_true, Option.bind_eq_bind,
    Option.bind_some]

theorem betweenInWords?_eq (first last : Option Date) :
    betweenInWords? first last = some (between first last) := by
  cases first with
  | none => rfl
  | some first =>
    cases last with
    | none => rfl
    | some last => simp only [betweenInWords?, count?_dates]; rfl

theorem ofBoundsInWords?_eq (start finish : Option String) :
    ofBoundsInWords? start finish = some (ofBounds start finish) := by
  simp only [ofBoundsInWords?, ofBounds, betweenInWords?_eq]
  cases start.bind Calendar.typedDate? with
  | none => rfl
  | some first =>
    cases finish.bind Calendar.typedDate? with
    | none => rfl
    | some last => exact (apply_ite some _ _ _).symm

/-- Offsets that lead to dates are no further apart than dates are. -/
theorem relativeInWords?_eq (start finish : Int) (today : Date) :
    relativeInWords? start finish today = some (relative start finish today) := by
  simp only [relativeInWords?, relative]
  cases hFirst : today.shift? (min start finish) with
  | none => rfl
  | some first =>
    cases hLast : today.shift? (max start finish) with
    | none => rfl
    | some last =>
      have hLow := Date.shift?_eq_some_iff.1 hFirst
      have hHigh := Date.shift?_eq_some_iff.1 hLast
      have hApart : max start finish - min start finish = last.number - first.number := by omega
      have hCount := count?_dates first last
      rw [count?, sub?, ← hApart] at hCount
      simp only [count?, sub?, hCount]
      rfl

/-- The extreme offsets lead to no date, so they are not added up. -/
example : (Date.ofCivil? 2024 3 10).bind
    (relativeInWords? (-9223372036854775808) 9223372036854775807) = some Window.always := by
  decide +kernel

theorem startOfWeekInWords?_eq (today : Date) :
    startOfWeekInWords? today = some today.startOfWeek? := by
  have hWeekday : today.weekday < 7 := by
    unfold Date.weekday
    omega
  simp only [startOfWeekInWords?, sub?, Int.zero_sub, Date.startOfWeek?]
  rw [if_pos (fits_of_bounds (by omega) (by omega))]
  rfl

theorem periodStartInWords?_eq (period : Period) (today : Date) :
    periodStartInWords? period today = some (periodStart? period today) := by
  cases period with
  | week => exact startOfWeekInWords?_eq today
  | month => rfl
  | year => rfl

theorem currentInWords?_eq (period : Period) (now : Instant) :
    currentInWords? period now = some (current period now) := by
  rw [currentInWords?, periodStartInWords?_eq, current]
  cases periodStart? period now.date with
  | none => rfl
  | some first => simp only [count?_dates]; rfl

theorem lastPeriodInWords?_eq (period : Period) (today : Date) :
    lastPeriodInWords? period today = some (lastPeriod? period today) := by
  cases period with
  | week => rw [lastPeriodInWords?, startOfWeekInWords?_eq]; rfl
  | month => rfl
  | year => rfl

theorem previousInWords?_eq (period : Period) (today : Date) :
    previousInWords? period today = some (previous period today) := by
  rw [previousInWords?, lastPeriodInWords?_eq, previous]
  cases lastPeriod? period today with
  | none => rfl
  | some dates => simp only [betweenInWords?_eq]; rfl

theorem ofKindInWords?_eq (now : Instant) (kind : PresetKind) :
    ofKindInWords? now kind = some (ofKind now kind) := by
  cases kind with
  | all => rfl
  | relative start finish => exact relativeInWords?_eq start finish now.date
  | calendar current period =>
    cases current with
    | true => exact currentInWords?_eq period now
    | false => exact previousInWords?_eq period now.date

/-- No choice of a window makes the arithmetic leave the words, however large the offsets are. -/
theorem resolveInWords?_eq (f : Timeframe) (presets : List Preset) (now : Instant) :
    f.resolveInWords? presets now = some (f.resolve presets now) := by
  simp only [resolveInWords?, resolve, ofBoundsInWords?_eq, ofKindInWords?_eq]
  split
  · rfl
  · cases presets.find? (·.id == Text.trim f.preset) with
    | none => rfl
    | some preset => rfl

end Timeframe
end NoteBoard
