import NoteBoard.Proofs.Filter.FreeText
import NoteBoard.Widget.Evaluate
import NoteBoard.Widget.Upgrade

/-! An upgrade is not noticed: a widget shows the same with the fields of older documents as with
the filters made of them. The two ways in are the filters of a widget and, for charts, the filter
or the series, whichever the mode asks for. A chart whose mode is changed afterwards keeps its
series, but not always its filter. -/
namespace NoteBoard

theorem Filter.takesAll_everything : Filter.everything.takesAll = true := by decide

namespace FreeTextFilter

theorem toFilter?_none : FreeTextFilter.none.toFilter? = .none := by
  simp [toFilter?, FreeTextFilter.none, Filter.takesAll_everything]

/-- Blank fields ask for nothing. -/
theorem toFilter?_of_isBlank {l : FreeTextFilter} (h : l.isBlank = true) :
    l.toFilter? = .none := by
  have hBlank {text : String} (hText : (Text.trim text).isEmpty = true) :
      ∀ c ∈ text.toList, Text.isBlank c = true :=
    Text.forall_of_strip_eq_nil (by simpa [Text.trim] using hText)
  obtain ⟨query, tagFilter⟩ := l
  simp only [isBlank, Bool.and_eq_true, Option.all_eq_true] at h
  have hQuery : (query.map Filter.ofFreeText).getD .everything = .everything := by
    cases query with
    | none => rfl
    | some query => exact Filter.ofFreeText_of_blank (hBlank (h.1 query rfl))
  cases tagFilter with
  | none => simp [toFilter?, hQuery, Filter.takesAll_everything]
  | some text =>
      have hTags := Filter.ofTagShorthand_of_blank (hBlank (h.2 text rfl))
      simp only [toFilter?, hQuery, hTags]
      decide +kernel

theorem takesAll_of_toFilter? {l : FreeTextFilter} {f : Filter} (h : l.toFilter? = some f) :
    f.takesAll = false := by
  rw [toFilter?] at h
  obtain ⟨hAsks, hMerged⟩ := Option.ite_none_left_eq_some.1 h
  rw [← Option.some_inj.1 hMerged]
  exact Bool.eq_false_iff.2 hAsks

theorem filtersOr_ne_nil (l : FreeTextFilter) (filters : List Filter) :
    l.filtersOr filters ≠ [] := by
  unfold filtersOr
  split
  · simp
  · next h => exact fun hNil => h (List.isEmpty_iff.2 hNil)

/-- Filters that have been filled in are kept, whatever else there is. -/
theorem filtersOr_filtersOr (l l' : FreeTextFilter) (filters : List Filter) :
    l'.filtersOr (l.filtersOr filters) = l.filtersOr filters :=
  if_neg fun h => l.filtersOr_ne_nil filters (List.isEmpty_iff.1 h)

end FreeTextFilter

namespace ChartSettings

theorem effectiveSeries_ne_nil (c : ChartSettings) : c.effectiveSeries ≠ [] := by
  unfold effectiveSeries
  split
  · simp
  · next h => exact fun hNil => h (List.isEmpty_iff.2 hNil)

/-- A filter that has been filled in counts as it is. -/
theorem effectiveFilter_of_none {c : ChartSettings} (h : c.freeText = .none) :
    c.effectiveFilter = c.filter := by
  unfold effectiveFilter
  split
  · rw [h, FreeTextFilter.toFilter?_none, Option.getD_none]
  · rfl

theorem effectiveSeries_of_ne_nil {c : ChartSettings} (h : c.series ≠ []) :
    c.effectiveSeries = c.series :=
  if_neg fun hEmpty => h (List.isEmpty_iff.1 hEmpty)

/-- What an upgrade does to a chart: nothing where the older fields are blank, else it fills in the
part for the mode. -/
theorem upgrade_cases (c : ChartSettings) :
    (c.freeText.isBlank = true ∧ c.upgrade = c) ∨
      (c.mode = .group ∧
        c.upgrade = { c with filter := c.effectiveFilter, freeText := .none }) ∨
      (c.mode = .series ∧
        c.upgrade = { c with series := c.effectiveSeries, freeText := .none }) := by
  by_cases hBlank : c.freeText.isBlank = true
  · exact Or.inl ⟨hBlank, if_pos hBlank⟩
  · cases hMode : c.mode with
    | group => exact Or.inr (Or.inl ⟨rfl, by simp only [upgrade, if_neg hBlank, hMode]⟩)
    | series => exact Or.inr (Or.inr ⟨rfl, by simp only [upgrade, if_neg hBlank, hMode]⟩)

theorem effectiveSeries_upgrade (c : ChartSettings) :
    c.upgrade.effectiveSeries = c.effectiveSeries := by
  rcases c.upgrade_cases with ⟨-, hUpgrade⟩ | ⟨-, hUpgrade⟩ | ⟨-, hUpgrade⟩
  · rw [hUpgrade]
  · have hFilter : c.upgrade.effectiveFilter = c.effectiveFilter := by
      rw [hUpgrade]
      exact effectiveFilter_of_none rfl
    rw [effectiveSeries, hFilter, hUpgrade]
    rfl
  · rw [hUpgrade]
    exact effectiveSeries_of_ne_nil c.effectiveSeries_ne_nil

/-- The filter is kept for groups; a chart of series keeps the filter it has. -/
theorem effectiveFilter_upgrade (c : ChartSettings) :
    c.upgrade.effectiveFilter = match c.mode with
      | .group => c.effectiveFilter
      | .series => c.filter := by
  rcases c.upgrade_cases with ⟨hBlank, hUpgrade⟩ | ⟨hMode, hUpgrade⟩ | ⟨hMode, hUpgrade⟩
  · have hFilter : c.effectiveFilter = c.filter := by
      simp [effectiveFilter, FreeTextFilter.toFilter?_of_isBlank hBlank]
    rw [hUpgrade, hFilter]
    cases c.mode <;> rfl
  · rw [hUpgrade, hMode]
    exact effectiveFilter_of_none rfl
  · rw [hUpgrade, hMode]
    exact effectiveFilter_of_none rfl

theorem effectiveFilter_eq_filter_iff (c : ChartSettings) :
    c.filter = c.effectiveFilter ↔ c.filter.takesAll = false ∨ c.freeText.toFilter? = .none := by
  cases hTakes : c.filter.takesAll with
  | false => simp [effectiveFilter, hTakes]
  | true =>
      cases hFree : c.freeText.toFilter? with
      | none => simp [effectiveFilter, hFree]
      | some f =>
          have hAsks := FreeTextFilter.takesAll_of_toFilter? hFree
          have hOther : c.filter ≠ f := by
            rintro rfl
            rw [hTakes] at hAsks
            cases hAsks
          simp [effectiveFilter, hTakes, hFree, hOther]

theorem upgrade_isBlank (c : ChartSettings) : c.upgrade.freeText.isBlank = true := by
  rcases c.upgrade_cases with ⟨hBlank, hUpgrade⟩ | ⟨-, hUpgrade⟩ | ⟨-, hUpgrade⟩
  · rw [hUpgrade, hBlank]
  · rw [hUpgrade]
    rfl
  · rw [hUpgrade]
    rfl

end ChartSettings

section Evaluation

variable {σ K : Type} [Provider σ K] [Numeral K] (source : σ)

theorem TaskListSettings.evaluate_filtersOr (c : TaskListSettings) :
    ({ c with filters := c.freeText.filtersOr c.filters, freeText := .none } :
      TaskListSettings).evaluate source = c.evaluate source := by
  simp only [TaskListSettings.evaluate, FreeTextFilter.filtersOr_filtersOr]

variable [TimeZone] (presets : List Preset) (now : Instant)

theorem CountSettings.baseline_filtersOr (c : CountSettings) (w : Window) :
    ({ c with filters := c.freeText.filtersOr c.filters, freeText := .none } :
      CountSettings).baseline source presets now w = c.baseline source presets now w := by
  simp only [CountSettings.baseline, FreeTextFilter.filtersOr_filtersOr]

theorem CountSettings.evaluate_filtersOr (c : CountSettings) :
    ({ c with filters := c.freeText.filtersOr c.filters, freeText := .none } :
      CountSettings).evaluate source presets now = c.evaluate source presets now := by
  simp only [CountSettings.evaluate, CountSettings.comparison, CountSettings.baseline_filtersOr,
    FreeTextFilter.filtersOr_filtersOr]

theorem ProgressSettings.evaluate_filtersOr (c : ProgressSettings K) :
    ({ c with filters := c.freeText.filtersOr c.filters, freeText := .none } :
      ProgressSettings K).evaluate source presets now = c.evaluate source presets now := by
  simp only [ProgressSettings.evaluate, FreeTextFilter.filtersOr_filtersOr]

/-- The part of a chart that the mode asks for is what it was taken to be before. -/
theorem ChartSettings.evaluate_upgrade (c : ChartSettings) :
    c.upgrade.evaluate source presets now = c.evaluate source presets now := by
  have hKept : c.upgrade.mode = c.mode ∧ c.upgrade.grouping = c.grouping ∧
      c.upgrade.limit = c.limit := by
    rcases c.upgrade_cases with ⟨-, hUpgrade⟩ | ⟨-, hUpgrade⟩ | ⟨-, hUpgrade⟩
    all_goals simp only [hUpgrade, and_self]
  have hFilter := c.effectiveFilter_upgrade
  cases hMode : c.mode with
  | group =>
      rw [hMode] at hFilter
      simp only [ChartSettings.evaluate, hKept, hMode, hFilter]
  | series => simp only [ChartSettings.evaluate, hKept, hMode, c.effectiveSeries_upgrade]

end Evaluation

namespace WidgetSettings

variable {K : Type}

theorem upgrade_of_isBlank {s : WidgetSettings K} (h : s.freeText.isBlank = true) :
    s.upgrade = s :=
  if_pos h

theorem upgrade_chart (c : ChartSettings) :
    (pieChart c : WidgetSettings K).upgrade = .pieChart c.upgrade ∧
      (lineChart c : WidgetSettings K).upgrade = .lineChart c.upgrade := by
  by_cases h : c.freeText.isBlank = true
  · rw [ChartSettings.upgrade, if_pos h]
    exact ⟨if_pos h, if_pos h⟩
  · exact ⟨if_neg h, if_neg h⟩

/-- An upgrade leaves nothing to upgrade. -/
theorem isBlank_upgrade (s : WidgetSettings K) : s.upgrade.freeText.isBlank = true := by
  by_cases h : s.freeText.isBlank = true
  · rw [upgrade_of_isBlank h, h]
  · simp only [upgrade, if_neg h]
    cases s with
    | taskList c => rfl
    | stats c => rfl
    | statusBar c => rfl
    | pieChart c => exact c.upgrade_isBlank
    | lineChart c => exact c.upgrade_isBlank

/-- The settings without what selects notes: what is left says how widgets count and look. -/
def unfiltered : WidgetSettings K → WidgetSettings K
  | .taskList c => .taskList { c with filters := [], freeText := .none }
  | .stats c => .stats { c with filters := [], freeText := .none }
  | .statusBar c => .statusBar { c with filters := [], freeText := .none }
  | .pieChart c => .pieChart { c with filter := .everything, series := [], freeText := .none }
  | .lineChart c => .lineChart { c with filter := .everything, series := [], freeText := .none }

theorem unfiltered_upgrade (s : WidgetSettings K) : s.upgrade.unfiltered = s.unfiltered := by
  by_cases h : s.freeText.isBlank = true
  · rw [upgrade_of_isBlank h]
  · simp only [upgrade, if_neg h]
    cases s with
    | taskList c => rfl
    | stats c => rfl
    | statusBar c => rfl
    | pieChart c =>
        rcases c.upgrade_cases with ⟨-, hUpgrade⟩ | ⟨-, hUpgrade⟩ | ⟨-, hUpgrade⟩
        all_goals simp only [hUpgrade, unfiltered]
    | lineChart c =>
        rcases c.upgrade_cases with ⟨-, hUpgrade⟩ | ⟨-, hUpgrade⟩ | ⟨-, hUpgrade⟩
        all_goals simp only [hUpgrade, unfiltered]

end WidgetSettings

namespace Widget

variable {σ K : Type}

theorem needsUpgrade_upgrade (w : Widget K) : w.upgrade.needsUpgrade = false := by
  rw [needsUpgrade, upgrade, w.settings.isBlank_upgrade, Bool.not_true]

theorem upgrade_of_not_needsUpgrade {w : Widget K} (h : w.needsUpgrade = false) :
    w.upgrade = w := by
  rw [needsUpgrade, Bool.not_eq_false'] at h
  rw [upgrade, WidgetSettings.upgrade_of_isBlank h]

theorem evaluate_upgrade [TimeZone] [Provider σ K] [Numeral K] (w : Widget K) (source : σ)
    (presets : List Preset) (now : Instant) :
    w.upgrade.evaluate source presets now = w.evaluate source presets now := by
  obtain ⟨id, x, y, width, height, title, size, side, icon, s⟩ := w
  by_cases h : s.freeText.isBlank = true
  · simp only [upgrade, WidgetSettings.upgrade_of_isBlank h]
  · simp only [upgrade, WidgetSettings.upgrade, if_neg h, evaluate]
    cases s with
    | taskList c => exact c.evaluate_filtersOr source
    | stats c => exact c.evaluate_filtersOr source presets now
    | statusBar c => exact c.evaluate_filtersOr source presets now
    | pieChart c => exact c.evaluate_upgrade source presets now
    | lineChart c => exact c.evaluate_upgrade source presets now

/-- An upgraded widget shows what it showed before, whatever the notes, the presets and the time.
A second upgrade finds nothing to do, and the flag says whether a first one did. Nothing but what
selects notes is touched: id, place, title, icon and all else in the settings stay. -/
theorem upgrade_unnoticed [TimeZone] [Provider σ K] [Numeral K] (w : Widget K) :
    (∀ (source : σ) (presets : List Preset) (now : Instant),
      w.upgrade.evaluate source presets now = w.evaluate source presets now) ∧
      (w.upgrade.needsUpgrade = false ∧ w.upgrade.upgrade = w.upgrade) ∧
      (w.needsUpgrade = true ↔ w.upgrade ≠ w) ∧
      { w.upgrade with settings := w.settings } = w ∧
      w.upgrade.settings.unfiltered = w.settings.unfiltered := by
  refine ⟨w.evaluate_upgrade, ⟨w.needsUpgrade_upgrade, ?_⟩, ⟨?_, ?_⟩, rfl,
    w.settings.unfiltered_upgrade⟩
  · exact upgrade_of_not_needsUpgrade w.needsUpgrade_upgrade
  · intro hNeeds hSame
    have hDone := w.needsUpgrade_upgrade
    rw [hSame, hNeeds] at hDone
    cases hDone
  · intro hChanged
    cases hNeeds : w.needsUpgrade with
    | true => rfl
    | false => exact absurd (upgrade_of_not_needsUpgrade hNeeds) hChanged

end Widget

/-- What an upgraded chart shows once its mode is changed. The series are those that it had before.
So is the filter, unless the chart showed series and its filter came from the older fields: they are
cleared then, and what is left is the chart's own filter, which asks for nothing. -/
theorem ChartSettings.upgrade_switched {K : Type} (c : ChartSettings) (mode : ChartContent) :
    ((WidgetSettings.pieChart c : WidgetSettings K).upgrade = .pieChart c.upgrade ∧
      (WidgetSettings.lineChart c : WidgetSettings K).upgrade = .lineChart c.upgrade) ∧
    { c.upgrade with mode := mode }.effectiveSeries = c.effectiveSeries ∧
    ({ c.upgrade with mode := mode }.effectiveFilter = match c.mode with
      | .group => c.effectiveFilter
      | .series => c.filter) ∧
    ({ c.upgrade with mode := mode }.effectiveFilter = c.effectiveFilter ↔
      c.mode = .group ∨ c.filter.takesAll = false ∨ c.freeText.toFilter? = .none) := by
  have hFilter : { c.upgrade with mode := mode }.effectiveFilter = match c.mode with
      | .group => c.effectiveFilter
      | .series => c.filter := c.effectiveFilter_upgrade
  refine ⟨WidgetSettings.upgrade_chart c, c.effectiveSeries_upgrade, hFilter, ?_⟩
  rw [hFilter]
  cases c.mode with
  | group => simp
  | series => simpa using c.effectiveFilter_eq_filter_iff

/-- A chart of series with a query in free text, which asks for the notes about work until the chart
is upgraded. -/
example :
    let c : ChartSettings := { ChartSettings.new .series with freeText := ⟨some "#work", none⟩ }
    c.effectiveFilter = ⟨"work", "", []⟩ ∧
      { c.upgrade with mode := .group }.effectiveFilter = .everything := by
  decide +kernel

end NoteBoard
