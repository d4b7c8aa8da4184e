import Mathlib.Data.Nat.Find
import NoteBoard.Proofs.Window.Resolved

/-! The windows before a window, one after the other. Each covers as many dates as the window has
days and ends a millisecond before the next one begins, so that together they cover the time up to
the end of the window without a gap and without counting an instant twice. -/
namespace NoteBoard

namespace Window

/-- The window a number of steps before a window; none where the calendar ends before. -/
def earlier? (w : Window) : Nat → Option Window
  | 0 => some w
  | steps + 1 => (w.earlier? steps).bind previous?

theorem exists_earlier?_of_le {w v : Window} {i k : Nat} (h : w.earlier? k = some v) (hle : i ≤ k) :
    ∃ u, w.earlier? i = some u := by
  induction hle generalizing v with
  | refl => exact ⟨v, h⟩
  | step _ ih =>
    obtain ⟨u, hu, -⟩ := Option.bind_eq_some_iff.1 h
    exact ih hu

/-- So many whole dates, from the start of the first to the end of the last. -/
def IsWholeDates (w : Window) (days : Int) : Prop :=
  ∃ first last : Date, w = ⟨some (Instant.startOf first), some (Instant.endOf last), some days⟩ ∧
    ((Date.span first last).ncard : Int) = days

/-- How the windows before a window that ends at an instant continue it into the past. -/
structure IsContinued (w : Window) (finish : Instant) (days : Int) : Prop where
  /-- There is a window before unless so many dates do not fit in the calendar any more. -/
  stops_iff : ∀ k v, w.earlier? k = some v → (v.previous? = none ↔
    ∃ start, v.start = some start ∧ start.date.number - days < Calendar.firstDay)
  whole : ∀ k v, w.earlier? (k + 1) = some v → v.IsWholeDates days
  abuts : ∀ k v u, w.earlier? k = some v → w.earlier? (k + 1) = some u →
    ∃ start before, v.start = some start ∧ u.finish = some before ∧
      before.place + 1000000 = start.place
  covers : ∀ k v start, w.earlier? k = some v → v.start = some start →
    ∀ t : Instant, t.IsWhole → start ≤ t → t ≤ finish →
      ∃! i, i ≤ k ∧ ∃ u, w.earlier? i = some u ∧ u.contains t = true

section Steps

variable {first : Date} {finish : Instant} {days : Int} (hDays : 1 ≤ days)

include hDays

/-- The window before one that begins with a date: the dates just before that one. -/
theorem previous?_eq : previous? ⟨some (Instant.startOf first), some finish, some days⟩ = (do
    let last ← first.shift? (-1)
    let start ← last.shift? (1 - days)
    return ⟨some (Instant.startOf start), some (Instant.endOf last), some days⟩) := by
  have hPositive : ¬days ≤ 0 := by omega
  simp only [previous?, Option.bind_eq_bind, Option.bind_some, if_neg hPositive,
    Instant.pred?_startOf, Option.bind_map, Function.comp_def, Instant.endOf]

theorem previous?_cases {v : Window}
    (h : previous? ⟨some (Instant.startOf first), some finish, some days⟩ = some v) :
    ∃ start last : Date,
      v = ⟨some (Instant.startOf start), some (Instant.endOf last), some days⟩ ∧
        start.number = first.number - days ∧ first.number = last.number + 1 := by
  simp only [previous?_eq hDays, Option.bind_eq_bind, Option.bind_eq_some_iff, Option.pure_def,
    Option.some.injEq] at h
  obtain ⟨last, hLast, start, hStart, rfl⟩ := h
  have hLast := Date.shift?_eq_some_iff.1 hLast
  have hStart := Date.shift?_eq_some_iff.1 hStart
  exact ⟨start, last, rfl, by omega, by omega⟩

theorem previous?_eq_none_iff :
    previous? ⟨some (Instant.startOf first), some finish, some days⟩ = none ↔
      first.number - days < Calendar.firstDay := by
  have hEnd := first.le_last
  rw [previous?_eq hDays]
  cases hLast : first.shift? (-1) with
  | none =>
    have hNoLast := Date.shift?_eq_none_iff.1 hLast
    simp only [Option.bind_eq_bind, Option.bind_none, true_iff]
    omega
  | some last =>
    have hNumber := Date.shift?_eq_some_iff.1 hLast
    cases hStart : last.shift? (1 - days) with
    | none =>
      have hNoStart := Date.shift?_eq_none_iff.1 hStart
      simp only [Option.bind_eq_bind, Option.bind_some, hStart, Option.bind_none, true_iff]
      omega
    | some start =>
      have hBegins := Date.shift?_eq_some_iff.1 hStart
      have hAfter := start.first_le
      simp only [Option.bind_eq_bind, Option.bind_some, hStart, Option.pure_def, reduceCtorEq,
        false_iff]
      omega

/-- Every window on the way begins with a date, as many days back for each step. -/
theorem earlier?_cases {k : Nat} {v : Window}
    (h : earlier? ⟨some (Instant.startOf first), some finish, some days⟩ k = some v) :
    ∃ (start : Date) (before : Instant),
      v = ⟨some (Instant.startOf start), some before, some days⟩ ∧
        start.number = first.number - k * days := by
  induction k generalizing v with
  | zero =>
    obtain rfl := Option.some.inj h
    exact ⟨first, finish, rfl, by simp⟩
  | succ k ih =>
    obtain ⟨u, hu, hv⟩ := Option.bind_eq_some_iff.1 h
    obtain ⟨next, before, rfl, hNext⟩ := ih hu
    obtain ⟨start, last, rfl, hStart, -⟩ := previous?_cases hDays hv
    refine ⟨start, Instant.endOf last, rfl, ?_⟩
    rw [hStart, hNext, Nat.cast_succ, add_mul]
    omega

/-- Of the windows on the way, an instant lies in the first one that does not begin after it. -/
theorem contains_earlier?_iff {t : Instant} (hWhole : t.IsWhole) (hFinish : t ≤ finish) {i : Nat}
    {v : Window}
    (h : earlier? ⟨some (Instant.startOf first), some finish, some days⟩ i = some v) :
    v.contains t = true ↔ first.number - i * days ≤ t.date.number ∧
      ∀ j < i, ¬first.number - j * days ≤ t.date.number := by
  cases i with
  | zero =>
    obtain rfl := Option.some.inj h
    simp [contains, Instant.startOf_le_iff, hFinish]
  | succ i =>
    obtain ⟨u, hu, hv⟩ := Option.bind_eq_some_iff.1 h
    obtain ⟨next, before, rfl, hNext⟩ := earlier?_cases hDays hu
    obtain ⟨start, last, rfl, hStart, hLast⟩ := previous?_cases hDays hv
    have hBegins : start.number = first.number - (i + 1 : Nat) * days := by
      rw [hStart, hNext, Nat.cast_succ, add_mul]
      omega
    have hAfter : (∀ j < i + 1, ¬first.number - j * days ≤ t.date.number) ↔
        t.date.number ≤ last.number := by
      constructor
      · intro hNone
        have hLater := hNone i (Nat.lt_succ_self i)
        omega
      · intro hEnds j hj
        have hSteps : (j : Int) * days ≤ i * days :=
          Int.mul_le_mul_of_nonneg_right (by omega) (by omega)
        omega
    rw [hAfter, ← hBegins]
    simp [contains, Instant.startOf_le_iff, hWhole.le_endOf_iff]

/-- The windows before one that begins with a date continue it. -/
theorem isContinued :
    IsContinued ⟨some (Instant.startOf first), some finish, some days⟩ finish days where
  stops_iff := by
    intro k v hv
    obtain ⟨start, before, rfl, -⟩ := earlier?_cases hDays hv
    rw [previous?_eq_none_iff hDays]
    simp [Instant.startOf]
  whole := by
    intro k v hv
    obtain ⟨u, hu, hPrevious⟩ := Option.bind_eq_some_iff.1 hv
    obtain ⟨next, before, rfl, -⟩ := earlier?_cases hDays hu
    obtain ⟨start, last, rfl, hStart, hLast⟩ := previous?_cases hDays hPrevious
    refine ⟨start, last, rfl, ?_⟩
    rw [Date.ncard_span (by omega), Date.daysUntil]
    omega
  abuts := by
    intro k v u hv hu
    obtain ⟨next, before, rfl, -⟩ := earlier?_cases hDays hv
    have hPrevious := (Option.bind_eq_some_iff.1 hu)
    obtain ⟨_, hSame, hPrevious⟩ := hPrevious
    obtain rfl := Option.some.inj (hv.symm.trans hSame)
    obtain ⟨start, last, rfl, -, hLast⟩ := previous?_cases hDays hPrevious
    exact ⟨_, _, rfl, rfl, Instant.place_endOf hLast⟩
  covers := by
    rintro k v _ hv hStart t hWhole hAfter hFinish
    obtain ⟨start, before, rfl, hBegins⟩ := earlier?_cases hDays hv
    obtain rfl := Option.some.inj hStart
    have hReached : ∃ i : Nat, first.number - i * days ≤ t.date.number :=
      ⟨k, hBegins ▸ Instant.startOf_le_iff.1 hAfter⟩
    have hLeast := Nat.find_min' hReached (hBegins ▸ Instant.startOf_le_iff.1 hAfter)
    obtain ⟨u, hu⟩ := exists_earlier?_of_le hv hLeast
    refine ⟨Nat.find hReached, ⟨hLeast, u, hu, ?_⟩, ?_⟩
    · rw [contains_earlier?_iff hDays hWhole hFinish hu]
      exact ⟨Nat.find_spec hReached, fun j hj => Nat.find_min hReached hj⟩
    · rintro i ⟨-, u', hu', hContains⟩
      rw [contains_earlier?_iff hDays hWhole hFinish hu'] at hContains
      exact ((Nat.find_eq_iff hReached).2 hContains).symm

end Steps

end Window

namespace Timeframe

/-- The windows before a window of a stored choice continue it, whatever the choice. -/
theorem resolve_continued {f : Timeframe} {presets : List Preset} {now start finish : Instant}
    (hStart : (f.resolve presets now).start = some start)
    (hFinish : (f.resolve presets now).finish = some finish) :
    ∃ days, (f.resolve presets now).days = some days ∧
      (f.resolve presets now).IsContinued finish days := by
  obtain ⟨days, hDays, hWindow⟩ := (isDated_resolve presets now f).eq_of_bounds hStart hFinish
  rw [hWindow]
  exact ⟨days, rfl, Window.isContinued hDays⟩

/-- Half past twelve on the tenth of March 2024. -/
def lunch : Instant :=
  ((Date.ofCivil? 2024 3 10).bind fun date => Instant.ofParts? date 45000 0).get rfl

/-- The month up to now, the ten dates before it, which end with a leap day, and an instant on
that day. -/
theorem monthToDate_continued :
    let w := resolve ⟨"this-month", none, none⟩ Preset.defaults lunch
    w.start.map Instant.text = some "2024-03-01T00:00:00" ∧ w.finish = some lunch ∧
      w.IsContinued lunch 10 ∧
      (w.earlier? 1).map (fun v => (v.start.map Instant.text, v.finish.map Instant.text)) =
        some (some "2024-02-20T00:00:00", some "2024-02-29T23:59:59.999") := by
  intro w
  have hStart : w.start.map Instant.text = some "2024-03-01T00:00:00" := by decide +kernel
  have hFinish : w.finish = some lunch := by decide +kernel
  have hTen : w.days = some 10 := by decide +kernel
  obtain ⟨start, hSome, -⟩ := Option.map_eq_some_iff.1 hStart
  obtain ⟨days, hDays, hContinued⟩ := resolve_continued hSome hFinish
  obtain rfl := Option.some.inj (hDays.symm.trans hTen)
  exact ⟨hStart, hFinish, hContinued, by decide +kernel⟩

end Timeframe
end NoteBoard
