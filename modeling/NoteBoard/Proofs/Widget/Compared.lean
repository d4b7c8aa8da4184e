import NoteBoard.Proofs.Number.Whole
import NoteBoard.Proofs.Window.Resolved
import NoteBoard.Vault.Basic
import NoteBoard.Widget.Evaluate

/-! When a count is compared with another one, and what the comparison says. There is one exactly
if there is a window to compare with and, where counts are taken per day, both windows have days;
counts and quotients are exact here, and nothing is divided by zero. -/
namespace NoteBoard

namespace Rate

/-- The value of a count on a basis. Per day, there are days to divide by. -/
def Gives (basis : Rate) (c : Count) (value : Rat) : Prop :=
  match basis with
  | .total => value = c.count
  | .perDay => ∃ days, c.days = some days ∧ 0 < days ∧ value = c.count / days

/-- Whether days are known if they are asked for. -/
def IsKnown (basis : Rate) (days : Option Int) : Prop :=
  basis = .perDay → days.isSome = true

theorem Gives.isKnown {basis : Rate} {c : Count} {value : Rat} (h : basis.Gives c value) :
    basis.IsKnown c.days := by
  rintro rfl
  obtain ⟨days, hSome, -⟩ := h
  rw [hSome]
  rfl

theorem exists_apply {basis : Rate} {c : Count} (hPositive : ∀ days ∈ c.days, 1 ≤ days)
    (hKnown : basis.IsKnown c.days) : ∃ value, basis.Gives c value ∧
      (basis.apply c : Except (Error Exact) Exact) = .ok (.finite value) := by
  cases basis with
  | total => exact ⟨c.count, rfl, rfl⟩
  | perDay =>
    obtain ⟨days, hSome⟩ := Option.isSome_iff_exists.1 (hKnown rfl)
    have hDays : 0 < days := hPositive days hSome
    have hNonzero : (days : Rat) ≠ 0 := Int.cast_ne_zero.2 hDays.ne'
    refine ⟨c.count / days, ⟨days, hSome, hDays, rfl⟩, ?_⟩
    simp only [apply, hSome, if_pos hDays]
    exact congrArg Except.ok (Exact.finite_div _ hNonzero)

theorem apply_of_not_isKnown {basis : Rate} {c : Count} (hKnown : ¬basis.IsKnown c.days) :
    (basis.apply c : Except (Error Exact) Exact) = .error .unboundedWindow := by
  cases basis with
  | total => exact absurd nofun hKnown
  | perDay =>
    have hNone : c.days = none := by simpa [IsKnown] using hKnown
    simp only [apply, hNone]

/-- Two counts have values on a basis, unless there are no days for one of them. -/
theorem apply_both_cases (basis : Rate) {c d : Count} (hc : ∀ days ∈ c.days, 1 ≤ days)
    (hd : ∀ days ∈ d.days, 1 ≤ days) :
    let values : Except (Error Exact) (Exact × Exact) := do
      return (← basis.apply c, ← basis.apply d)
    (∃ p q, basis.Gives c p ∧ basis.Gives d q ∧ values = .ok (.finite p, .finite q)) ∨
      (¬(basis.IsKnown c.days ∧ basis.IsKnown d.days) ∧ ∃ e, values = .error e) := by
  intro values
  by_cases hFirst : basis.IsKnown c.days
  · obtain ⟨p, hp, hApplyFirst⟩ := exists_apply hc hFirst
    by_cases hSecond : basis.IsKnown d.days
    · obtain ⟨q, hq, hApplySecond⟩ := exists_apply hd hSecond
      exact .inl ⟨p, q, hp, hq, by simp only [values, hApplyFirst, hApplySecond]; rfl⟩
    · refine .inr ⟨fun h => hSecond h.2, .unboundedWindow, ?_⟩
      simp only [values, hApplyFirst, apply_of_not_isKnown hSecond]
      rfl
  · refine .inr ⟨fun h => hFirst h.1, .unboundedWindow, ?_⟩
    simp only [values, apply_of_not_isKnown hFirst]
    rfl

end Rate

/-- With exact numbers, only a baseline of zero leaves no percentage. -/
theorem Comparison.percentOf?_finite (primary baseline : Rat) :
    percentOf? (Exact.finite primary) (.finite baseline) =
      if baseline = 0 then none
      else some (.finite ((primary - baseline) / baseline * 100)) := by
  have hZero : (Exact.finite baseline == 0) = decide (baseline = 0) := by
    rw [Exact.zero_eq_finite]
    show Exact.eqv _ _ = _
    simp [Exact.eqv, Exact.isNaN]
  have hHundred : (100 : Exact) = .finite 100 := rfl
  simp only [percentOf?, hZero, Exact.isFinite_finite, Bool.not_true, Bool.or_false,
    decide_eq_true_eq]
  split
  · rfl
  · next hNonzero =>
    rw [hHundred, Exact.finite_sub, Exact.finite_div _ hNonzero, Exact.finite_mul]

namespace Window

/-- Only a window with bounds and days has one before it, which has the same days. -/
theorem of_previous? {w b : Window} (h : w.previous? = some b) :
    w.isBounded = true ∧ b.days = w.days := by
  simp only [previous?, Option.bind_eq_bind, Option.bind_eq_some_iff] at h
  obtain ⟨start, hStart, finish, hFinish, days, hDays, h⟩ := h
  split at h
  · cases h
  · simp only [Option.bind_eq_some_iff, Option.pure_def, Option.some.injEq] at h
    obtain ⟨_, -, _, -, rfl⟩ := h
    exact ⟨by simp [isBounded, hStart, hFinish, hDays], hDays.symm⟩

theorem IsDated.isBounded {w : Window} {now : Instant} {EndsNow : Prop} (h : w.IsDated now EndsNow)
    (hDays : w.days.isSome = true) : w.isBounded = true := by
  obtain ⟨hStart, hFinish⟩ := h.days_isSome.1 hDays
  simp [Window.isBounded, hStart, hFinish, hDays]

end Window

namespace CountSettings

/-- The window that a count is compared over, if there is one. -/
def baselineWindow? (c : CountSettings) (presets : List Preset) (now : Instant) (w : Window) :
    Option Window :=
  match c.compare.mode with
  | .none => none
  | .previousPeriod => w.previous?
  | .fixedPeriod => some (c.compare.timeframe.resolve presets now)
  | .filter => some w

/-- The filters that a count is compared by. Only a comparison of filters has filters of its own. -/
def baselineFilters (c : CountSettings) : List Filter :=
  match c.compare.mode with
  | .filter => FreeTextFilter.none.filtersOr c.compare.filters
  | _ => c.freeText.filtersOr c.filters

/-- There is a window to compare with, and there are days in both windows if they are asked for. -/
def IsComparable (c : CountSettings) (presets : List Preset) (now : Instant) (w : Window) : Prop :=
  ∃ b, c.baselineWindow? presets now w = some b ∧
    c.compare.basis.IsKnown w.days ∧ c.compare.basis.IsKnown b.days

variable {σ : Type} [Provider σ Exact]

/-- What a comparison over a window shows, and when. -/
structure IsCompared [TimeZone] (c : CountSettings) (source : σ) (presets : List Preset)
    (now : Instant) (w : Window) (view : ComparisonView Exact) : Prop where
  disabled_iff : view = .disabled ↔ c.compare.mode = .none
  available_iff : (∃ comparison, view = .available comparison) ↔
    c.compare.mode ≠ .none ∧ c.IsComparable presets now w
  unavailable_iff : (∃ reason, view = .unavailable reason) ↔
    c.compare.mode ≠ .none ∧ ¬c.IsComparable presets now w
  values : ∀ comparison, view = .available comparison →
    ∃ (b : Window) (p q : Rat), c.baselineWindow? presets now w = some b ∧
      c.compare.basis.Gives
        (Count.take source c.counted (c.freeText.filtersOr c.filters) c.stamp w) p ∧
      c.compare.basis.Gives (Count.take source c.counted c.baselineFilters c.stamp b) q ∧
      comparison.primary = .finite p ∧ comparison.baseline = .finite q ∧
      comparison.delta = .finite (p - q) ∧
      comparison.percent = if q = 0 then none else some (.finite ((p - q) / q * 100))

variable {c : CountSettings} {presets : List Preset} {now : Instant} {w b : Window}

/-- A count to compare with is the one over the window to compare with, if there is one. -/
theorem exists_baseline_eq [TimeZone] (c : CountSettings) (source : σ) (presets : List Preset)
    (now : Instant) (w : Window) : ∃ label reason, c.baseline source presets now w =
      match c.baselineWindow? presets now w with
      | some b => .ok (Count.take source c.counted c.baselineFilters c.stamp b, label)
      | none => .error reason := by
  simp only [baseline, baselineWindow?, baselineFilters]
  cases c.compare.mode with
  | none => exact ⟨"", _, rfl⟩
  | previousPeriod =>
    cases w.previous? with
    | none => exact ⟨"", _, rfl⟩
    | some b => exact ⟨_, "", rfl⟩
  | fixedPeriod => exact ⟨_, "", rfl⟩
  | filter => exact ⟨_, "", rfl⟩

section Dated

variable {EndsNow : Prop} (hDated : w.IsDated now EndsNow)

include hDated

theorem days_pos_of_baselineWindow? (h : c.baselineWindow? presets now w = some b) :
    ∀ days ∈ b.days, 1 ≤ days := by
  simp only [baselineWindow?] at h
  split at h
  · cases h
  · rw [(Window.of_previous? h).2]
    exact hDated.days_pos
  · obtain rfl := Option.some.inj h
    exact (Timeframe.isDated_resolve presets now c.compare.timeframe).days_pos
  · obtain rfl := Option.some.inj h
    exact hDated.days_pos

/-- What is ruled out by the window alone could not be compared anyway. -/
theorem IsComparable.obstacle?_eq_none (h : c.IsComparable presets now w) :
    obstacle? c.compare w = none := by
  obtain ⟨b, hWindow, hKnown, -⟩ := h
  unfold obstacle?
  split
  · rfl
  · next hOpen =>
    have hMode : c.compare.mode ≠ .previousPeriod := by
      intro hMode
      simp only [baselineWindow?, hMode] at hWindow
      exact hOpen (Window.of_previous? hWindow).1
    have hBasis : c.compare.basis ≠ .perDay := fun hBasis =>
      hOpen (hDated.isBounded (hKnown hBasis))
    rw [if_neg hMode, if_neg hBasis]

/-- The three ways in which a comparison comes out. -/
theorem comparison_cases [TimeZone] (c : CountSettings) (source : σ) (presets : List Preset)
    {primary : Count} (hDays : primary.days = w.days) :
    (c.compare.mode = .none ∧ c.comparison source presets now w primary = .disabled) ∨
      (c.compare.mode ≠ .none ∧ ¬c.IsComparable presets now w ∧
        ∃ reason, c.comparison source presets now w primary = .unavailable reason) ∨
      (c.compare.mode ≠ .none ∧ ∃ b p q label, c.baselineWindow? presets now w = some b ∧
        c.compare.basis.Gives primary p ∧
        c.compare.basis.Gives (Count.take source c.counted c.baselineFilters c.stamp b) q ∧
        c.comparison source presets now w primary =
          .available (.of label (.finite p) (.finite q) c.compare.display)) := by
  by_cases hMode : c.compare.mode = .none
  · exact .inl ⟨hMode, if_pos hMode⟩
  refine .inr ?_
  cases hObstacle : obstacle? c.compare w with
  | some reason =>
    have hView : c.comparison source presets now w primary = .unavailable reason := by
      simp only [comparison, if_neg hMode, hObstacle]
    refine .inl ⟨hMode, fun h => ?_, reason, hView⟩
    rw [h.obstacle?_eq_none hDated] at hObstacle
    cases hObstacle
  | none =>
    obtain ⟨label, reason, hBaseline⟩ := c.exists_baseline_eq source presets now w
    cases hWindow : c.baselineWindow? presets now w with
    | none =>
      have hView : c.comparison source presets now w primary = .unavailable reason := by
        simp only [comparison, if_neg hMode, hObstacle, hBaseline, hWindow]
      refine .inl ⟨hMode, ?_, reason, hView⟩
      rintro ⟨b, hSome, -⟩
      rw [hWindow] at hSome
      cases hSome
    | some b =>
      let other := Count.take source c.counted c.baselineFilters c.stamp b
      have hPrimary : ∀ days ∈ primary.days, 1 ≤ days := hDays ▸ hDated.days_pos
      have hOther : ∀ days ∈ other.days, 1 ≤ days := days_pos_of_baselineWindow? hDated hWindow
      rcases Rate.apply_both_cases c.compare.basis hPrimary hOther with
        ⟨p, q, hp, hq, hValues⟩ | ⟨hNone, e, hValues⟩
      · refine .inr ⟨hMode, b, p, q, labelOr c.compare label, rfl, hp, hq, ?_⟩
        simp only [comparison, if_neg hMode, hObstacle, hBaseline, hWindow, hValues, other]
      · have hView : c.comparison source presets now w primary = .unavailable e.message := by
          simp only [comparison, if_neg hMode, hObstacle, hBaseline, hWindow, hValues, other]
        refine .inl ⟨hMode, ?_, e.message, hView⟩
        rintro ⟨_, hSame, hKnown, hKnownOther⟩
        obtain rfl := Option.some.inj (hWindow.symm.trans hSame)
        exact hNone ⟨hDays ▸ hKnown, hKnownOther⟩

end Dated

/-- A count is compared with another one exactly if that can be done, and the values and quotients
shown are the ones of the two counts. -/
theorem evaluate_compared [TimeZone] (c : CountSettings) (source : σ) (presets : List Preset)
    (now : Instant) :
    let w := c.timeframe.resolve presets now
    let primary := Count.take source c.counted (c.freeText.filtersOr c.filters) c.stamp w
    ∃ view : ComparisonView Exact,
      c.evaluate source presets now = .stat primary.count w.days view ∧
        c.IsCompared source presets now w view := by
  intro w primary
  have hDated := Timeframe.isDated_resolve presets now c.timeframe
  have hDays : primary.days = w.days := Count.days_take ..
  have hView : c.evaluate source presets now =
      .stat primary.count w.days (c.comparison source presets now w primary) := by
    rw [← hDays]
    rfl
  refine ⟨_, hView, ?_⟩
  rcases comparison_cases hDated c source presets hDays with ⟨hMode, hView⟩ |
    ⟨hMode, hNot, reason, hView⟩ | ⟨hMode, b, p, q, label, hWindow, hp, hq, hView⟩
  · constructor <;> simp [w, hView, hMode]
  · constructor <;> simp [w, hView, hMode, hNot]
  · have hComparable : c.IsComparable presets now w := by
      refine ⟨b, hWindow, ?_, ?_⟩
      · rw [← hDays]
        exact hp.isKnown
      · simpa using hq.isKnown
    constructor
    case disabled_iff => simp [w, hView, hMode]
    case available_iff => simp [w, hView, hMode, hComparable]
    case unavailable_iff => simp [w, hView, hMode, hComparable]
    case values =>
      rintro comparison hSame
      obtain rfl := ComparisonView.available.inj (hView.symm.trans hSame)
      exact ⟨b, p, q, hWindow, hp, hq, rfl, rfl, Exact.finite_sub p q,
        Comparison.percentOf?_finite p q⟩

section Diary

/-- Five hours west of universal time. -/
local instance westOfUniversal : TimeZone := .fixed (-18000)

/-- The notes of two days, per day, beside those of the four days before. -/
def recent : CountSettings :=
  { new with
    timeframe := ⟨Preset.customId, some "2024-03-09", some "2024-03-10"⟩
    compare := ⟨.fixedPeriod, ⟨Preset.customId, some "2024-03-05", some "2024-03-08"⟩, [],
      some "vs before", .percent, .perDay⟩ }

/-- Two notes of the four days and three of the two. The last one is of the tenth in this zone. -/
def diary : Vault Exact where
  notes := ["2024-03-06T08:00:00", "2024-03-08T21:15:00", "2024-03-09T07:30:00",
    "2024-03-10T10:00:00", "2024-03-11T04:30:00Z"].map fun stamp =>
      ⟨stamp, stamp, [], none, some stamp, none⟩
  items := []
  files := []

example : recent.evaluate diary [] (.startOf ⟨0, by decide, by decide⟩) =
    (.stat 3 (some 2) (.available ⟨"vs before", .finite (3 / 2), .finite (1 / 2), .finite 1,
      some (.finite 200), .percent⟩) : WidgetView Exact) := by
  decide +kernel

end Diary

end CountSettings
end NoteBoard
