import NoteBoard.Proofs.Window.Words

/-! What stored choices come to. A window that is bounded on both sides begins with a date and ends
with one, or at the present instant, and its days are the dates in between; the days of any other
window are not known. -/
namespace NoteBoard

namespace Timeframe

/-- The preset that a choice stands for, unless it has bounds of its own. -/
def chosen? (f : Timeframe) (presets : List Preset) : Option Preset :=
  if Text.trim f.preset = Preset.customId then none
  else presets.find? (·.id == Text.trim f.preset)

/-- The choice is that of a current period, which ends now. -/
def EndsNow (f : Timeframe) (presets : List Preset) : Prop :=
  ∃ preset period, f.chosen? presets = some preset ∧ preset.kind = .calendar true period

end Timeframe

namespace Window

/-- How the bounds and the days of a window belong together. Only where the window may end now need
it not end with a date. -/
structure IsDated (w : Window) (now : Instant) (EndsNow : Prop) : Prop where
  days_isSome : w.days.isSome = true ↔ w.start.isSome = true ∧ w.finish.isSome = true
  start_le : ∀ start ∈ w.start, ∀ finish ∈ w.finish, start ≤ finish
  days_eq : ∀ start ∈ w.start, ∀ finish ∈ w.finish,
    w.days = some ((Date.span start.date finish.date).ncard : Int)
  days_pos : ∀ days ∈ w.days, 1 ≤ days
  start_eq : ∀ start ∈ w.start, start = Instant.startOf start.date
  finish_eq : ∀ finish ∈ w.finish,
    finish = Instant.endOf finish.date ∨ finish = now ∧ EndsNow

theorem isDated_always (now : Instant) (EndsNow : Prop) : always.IsDated now EndsNow := by
  constructor <;> simp [always]

/-- Of two bounds of a window that is known by its first date. -/
theorem isDated_of_first {first : Date} {finish now : Instant} {EndsNow : Prop}
    (hOrder : first.number ≤ finish.date.number)
    (hFinish : finish = Instant.endOf finish.date ∨ finish = now ∧ EndsNow) :
    IsDated ⟨some (Instant.startOf first), some finish, some (first.daysUntil finish.date + 1)⟩
      now EndsNow where
  days_isSome := by simp
  start_le := by
    rintro _ ⟨⟩ _ ⟨⟩
    exact Instant.startOf_le_iff.2 hOrder
  days_eq := by
    rintro _ ⟨⟩ _ ⟨⟩
    exact congrArg some (Date.ncard_span hOrder).symm
  days_pos := by
    rintro _ ⟨⟩
    simp only [Date.daysUntil]
    omega
  start_eq := by
    rintro _ ⟨⟩
    rfl
  finish_eq := by
    rintro _ ⟨⟩
    exact hFinish

/-- A window with both bounds begins with a date and has days. -/
theorem IsDated.eq_of_bounds {w : Window} {now start finish : Instant} {EndsNow : Prop}
    (h : w.IsDated now EndsNow) (hStart : w.start = some start) (hFinish : w.finish = some finish) :
    ∃ days, 1 ≤ days ∧
      w = ⟨some (Instant.startOf start.date), some finish, some days⟩ := by
  have hDays := h.days_eq start hStart finish hFinish
  refine ⟨_, h.days_pos _ hDays, ?_⟩
  rw [← hDays, ← h.start_eq start hStart, ← hStart, ← hFinish]

end Window

namespace Timeframe

theorem isDated_between {first last : Option Date} (now : Instant) (EndsNow : Prop)
    (hOrder : ∀ a ∈ first, ∀ b ∈ last, a.number ≤ b.number) :
    (between first last).IsDated now EndsNow := by
  cases first with
  | none =>
    cases last with
    | none => exact Window.isDated_always now EndsNow
    | some last =>
      constructor <;> simp [between, Instant.endOf]
  | some first =>
    cases last with
    | none => constructor <;> simp [between, Instant.startOf]
    | some last => exact Window.isDated_of_first (hOrder _ rfl _ rfl) (.inl rfl)

theorem periodStart?_le {period : Period} {today first : Date}
    (h : periodStart? period today = some first) : first.number ≤ today.number := by
  cases period with
  | week => exact Date.startOfWeek?_le h
  | month => exact Date.startOfMonth?_le h
  | year =>
    have hFirst : first.number = Calendar.yearStart today.year := by
      simpa [Calendar.monthStart] using Date.number_of_ofCivil? h
    rw [hFirst]
    exact Calendar.yearStart_yearOf_le today.number

/-- How the first and the last date of the last period are found. -/
theorem lastPeriod?_cases {period : Period} {today first last : Date}
    (h : lastPeriod? period today = some (first, last)) : match period with
      | .week => ∃ monday, today.startOfWeek? = some monday ∧ monday.shift? (-7) = some first ∧
          monday.shift? (-1) = some last
      | .month => ∃ start, today.startOfMonth? = some start ∧ start.shift? (-1) = some last ∧
          last.startOfMonth? = some first
      | .year => Date.ofCivil? (today.year - 1) 1 1 = some first ∧
          Date.ofCivil? (today.year - 1) 12 31 = some last := by
  cases period <;>
    simp only [lastPeriod?, Option.bind_eq_bind, Option.bind_eq_some_iff, Option.pure_def,
      Option.some.injEq, Prod.mk.injEq] at h
  · obtain ⟨monday, hMonday, _, hFirst, _, hLast, rfl, rfl⟩ := h
    exact ⟨monday, hMonday, hFirst, hLast⟩
  · obtain ⟨start, hStart, _, hLast, _, hFirst, rfl, rfl⟩ := h
    exact ⟨start, hStart, hLast, hFirst⟩
  · obtain ⟨_, hFirst, _, hLast, rfl, rfl⟩ := h
    exact ⟨hFirst, hLast⟩

theorem lastPeriod?_le {period : Period} {today first last : Date}
    (h : lastPeriod? period today = some (first, last)) : first.number ≤ last.number := by
  have hCases := lastPeriod?_cases h
  cases period with
  | week =>
    obtain ⟨monday, -, hFirst, hLast⟩ := hCases
    have hFirst := Date.shift?_eq_some_iff.1 hFirst
    have hLast := Date.shift?_eq_some_iff.1 hLast
    omega
  | month =>
    obtain ⟨_, -, -, hFirst⟩ := hCases
    exact Date.startOfMonth?_le hFirst
  | year =>
    obtain ⟨hFirst, hLast⟩ := hCases
    have hFirst : first.number = Calendar.yearStart (today.year - 1) := by
      simpa [Calendar.monthStart] using Date.number_of_ofCivil? hFirst
    have hLast := Date.number_of_ofCivil? hLast
    omega

variable (presets : List Preset) (now : Instant)

theorem isDated_ofBounds (start finish : Option String) (EndsNow : Prop) :
    (ofBounds start finish).IsDated now EndsNow := by
  unfold ofBounds
  split
  · next first last _ _ =>
    split
    · next hSwapped => exact isDated_between now EndsNow (by simp; omega)
    · next hOrder => exact isDated_between now EndsNow (by simp; omega)
  · next hMissing =>
    refine isDated_between now EndsNow fun a ha b hb => ?_
    exact absurd hb (hMissing a b ha)

theorem isDated_relative (start finish : Int) (EndsNow : Prop) :
    (relative start finish now.date).IsDated now EndsNow := by
  refine isDated_between now EndsNow fun a ha b hb => ?_
  have ha := Date.shift?_eq_some_iff.1 ha
  have hb := Date.shift?_eq_some_iff.1 hb
  omega

theorem isDated_current (period : Period) {EndsNow : Prop} (hEnds : EndsNow) :
    (current period now).IsDated now EndsNow := by
  unfold current
  split
  · next first hFirst => exact Window.isDated_of_first (periodStart?_le hFirst) (.inr ⟨rfl, hEnds⟩)
  · exact Window.isDated_always now EndsNow

theorem isDated_previous (period : Period) (EndsNow : Prop) :
    (previous period now.date).IsDated now EndsNow := by
  unfold previous
  split
  · next first last hDates =>
    exact isDated_between now EndsNow (by simpa using lastPeriod?_le hDates)
  · exact Window.isDated_always now EndsNow

theorem isDated_resolve (f : Timeframe) :
    (f.resolve presets now).IsDated now (f.EndsNow presets) := by
  simp only [resolve]
  split
  · exact isDated_ofBounds now f.start f.finish _
  · next hOwn =>
    split
    · next preset hPreset =>
      cases hKind : preset.kind with
      | all => exact Window.isDated_always now _
      | relative start finish => exact isDated_relative now start finish _
      | calendar current period =>
        cases current with
        | false => exact isDated_previous now period _
        | true =>
          have hChosen : f.chosen? presets = some preset := by rw [chosen?, if_neg hOwn, hPreset]
          exact isDated_current now period ⟨preset, period, hChosen, hKind⟩
    · exact Window.isDated_always now _

/-- Whatever texts, offsets and instants a choice is made of, it comes to a window without leaving
the words of the machine, and bounds and days of the window belong together. -/
theorem resolve_dated (f : Timeframe) :
    f.resolveInWords? presets now = some (f.resolve presets now) ∧
      (f.resolve presets now).IsDated now (f.EndsNow presets) :=
  ⟨f.resolveInWords?_eq presets now, isDated_resolve presets now f⟩

end Timeframe
end NoteBoard
