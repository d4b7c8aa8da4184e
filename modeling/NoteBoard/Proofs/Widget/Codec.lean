import NoteBoard.Proofs.Tally.Codec
import NoteBoard.Widget.Codec

/-! Widgets as they are stored, and as they are read back. The names of the members of a widget and
of its settings are all different, so each is found where it was written. -/
namespace NoteBoard

open Json

variable {K : Type}

theorem names_limitJson (limit : Option Nat) :
    ((limitJson (K := K) limit).map Prod.fst).Sublist ["limit"] :=
  names_optional _ _

theorem FreeTextFilter.names_members (l : FreeTextFilter) :
    (l.members (K := K).map Prod.fst).Sublist ["query", "tagFilter"] := by
  rw [members, List.map_append]
  exact (names_optional _ _).append (names_optional _ _)

theorem FreeTextFilter.disjoint_members (l : FreeTextFilter) {names : List String}
    (hQuery : "query" ∉ names) (hTags : "tagFilter" ∉ names) :
    (l.members (K := K).map Prod.fst).Disjoint names := by
  intro name hMem hName
  rcases List.mem_pair.1 (l.names_members.subset hMem) with rfl | rfl
  · exact hQuery hName
  · exact hTags hName

theorem TaskListSettings.names_own (c : TaskListSettings) :
    (([("filters", filtersJson c.filters), ("showCompleted", .bool c.showCompleted)] ++
      limitJson c.limit : List (String × Json K)).map Prod.fst).Sublist
        ["filters", "showCompleted", "limit"] := by
  rw [List.map_append]
  exact (List.Sublist.refl _).append (names_limitJson _)

theorem CompareSettings.names_sublist (c : CompareSettings) :
    (([("mode", .text c.mode.name), ("range", c.timeframe.toJson),
      ("filters", filtersJson c.filters)] ++ Json.optional "label" (c.label.map .text) ++
      [("display", .text c.display.name), ("basis", .text c.basis.name)] :
        List (String × Json K)).map Prod.fst).Sublist
      ["mode", "range", "filters", "label", "display", "basis"] := by
  rw [List.map_append, List.map_append]
  exact ((List.Sublist.refl _).append (names_optional _ _)).append (List.Sublist.refl _)

theorem ChartSettings.names_own (c : ChartSettings) :
    (([("mode", .text c.mode.name), ("filter", c.filter.toJson),
      ("groupBy", .text c.grouping.text)] ++ limitJson c.limit ++
      [("series", .array (c.series.map Series.toJson))] : List (String × Json K)).map
        Prod.fst).Sublist ["mode", "filter", "groupBy", "limit", "series"] := by
  rw [List.map_append, List.map_append]
  exact ((List.Sublist.refl _).append (names_limitJson _)).append (List.Sublist.refl _)

/-- The members of a widget besides the settings. -/
def Widget.ownMembers (w : Widget K) : List (String × Json K) :=
  [("id", .text w.id), ("x", .real w.x), ("y", .real w.y), ("w", .real w.w), ("h", .real w.h)] ++
    Json.optional "title" (w.title.map .text) ++
    [("titleSize", .text w.titleSize.name), ("titleSide", .text w.titleSide.name)] ++
    Json.optional "headerIcon" (w.headerIcon.map .text)

theorem Widget.names_own (w : Widget K) :
    (w.ownMembers.map Prod.fst).Sublist Widget.ownNames := by
  rw [ownMembers, List.map_append, List.map_append, List.map_append]
  exact (((List.Sublist.refl _).append (names_optional _ _)).append (List.Sublist.refl _)).append
    (names_optional _ _)

theorem WidgetSettings.exists_names (s : WidgetSettings K) :
    ∃ names, (s.members.map Prod.fst).Sublist names ∧ (Widget.ownNames ++ names).Nodup := by
  -- The names of a type: the tag, those of its own, and those of older documents.
  have hMembers {own : List (String × Json K)} {names : List String} (l : FreeTextFilter)
      (h : (own.map Prod.fst).Sublist names) :
      (("type", Json.text s.type.name) :: (own ++ l.members)).map Prod.fst |>.Sublist
        ("type" :: (names ++ ["query", "tagFilter"])) := by
    rw [List.map_cons, List.map_append]
    exact (h.append l.names_members).cons_cons _
  cases s with
  | taskList c => exact ⟨_, hMembers c.freeText c.names_own, by decide⟩
  | stats c => exact ⟨_, hMembers c.freeText (List.Sublist.refl _), by simp [Widget.ownNames]⟩
  | statusBar c => exact ⟨_, hMembers c.freeText (List.Sublist.refl _), by simp [Widget.ownNames]⟩
  | pieChart c => exact ⟨_, hMembers c.freeText c.names_own, by decide⟩
  | lineChart c => exact ⟨_, hMembers c.freeText c.names_own, by decide⟩

theorem ChartContent.restores (c : ChartContent) :
    Restores (K := K) (choice? isNothing ChartContent.names) (.text c.name) c :=
  restores_choice (by cases c <;> rfl)

theorem TitleSize.restores (t : TitleSize) :
    Restores (K := K) (choice? isNull TitleSize.names) (.text t.name) t :=
  restores_choice (by cases t <;> rfl)

theorem TitleSide.restores (t : TitleSide) :
    Restores (K := K) (choice? isNull TitleSide.names) (.text t.name) t :=
  restores_choice (by cases t <;> rfl)

theorem WidgetType.restores (t : WidgetType) :
    Restores (K := K) (tag? WidgetType.names) (.text t.name) t := by
  intro _
  rw [form_text]
  cases t <;> rfl

/-- A limit that a reader takes. -/
def LimitFits (limit : Option Nat) : Prop :=
  ∀ n, limit = some n → n < twoTo 64

theorem optional_limit {sorted : Bool} {members : List (String × Json K)} {r : Record K}
    {limit : Option Nat} (h : Presents sorted members r.parts)
    (hWritten : members.lookup "limit" = limit.map fun (n : Nat) => .integer n)
    (hFits : LimitFits limit) : r.optional "limit" nat64? = some limit :=
  h.optional hWritten (fun n hn => restores_nat64 (hFits n hn)) rfl

variable [Numeral K]

theorem storable_limit {limit : Option Nat} (h : LimitFits limit) (depth : Nat) :
    ∀ m ∈ limitJson (K := K) limit, IsStorable depth m.2 :=
  forall_mem_optional.2 fun v hv => by
    obtain ⟨n, hn, rfl⟩ := Option.map_eq_some_iff.1 hv
    exact .integer (Nat.le_sub_one_of_lt (h n hn))

theorem storable_filters (filters : List Filter) (depth : Nat) :
    IsStorable (K := K) (depth + 4) (filtersJson filters) :=
  .array (List.forall_mem_map.2 fun f _ => f.storable depth)

theorem restores_filters (filters : List Filter) :
    Restores (K := K) (list? Filter.ofJson?) (filtersJson filters) filters :=
  restores_list fun f _ => f.restores

variable {sorted : Bool} {shown : List (String × Json K)}

namespace FreeTextFilter

theorem storable_members (l : FreeTextFilter) (depth : Nat) :
    ∀ m ∈ l.members (K := K), IsStorable depth m.2 :=
  List.forall_mem_append.2 ⟨storable_optional_text _ _ depth, storable_optional_text _ _ depth⟩

omit [Numeral K] in
theorem ofMembers?_shown {l : FreeTextFilter} (h : Presents sorted l.members shown) :
    ofMembers? shown = some l := by
  rw [← List.append_nil l.members] at h
  obtain ⟨found, hFound, hParts⟩ := h.record l.names_members.subset (List.disjoint_nil_left _)
  have hQuery : found.optional "query" text? = some l.query :=
    hParts.optionalText (by simp [members, List.lookup_append, lookup_optional])
  have hTags : found.optional "tagFilter" text? = some l.tagFilter :=
    hParts.optionalText (by simp [members, List.lookup_append, lookup_optional])
  simp [ofMembers?, hFound, hQuery, hTags]

end FreeTextFilter

namespace TaskListSettings

theorem storable_members {c : TaskListSettings} (h : LimitFits c.limit) (depth : Nat) :
    ∀ m ∈ c.members (K := K), IsStorable (depth + 5) m.2 := by
  refine List.forall_mem_append.2 ⟨List.forall_mem_append.2 ⟨?_, storable_limit h _⟩,
    c.freeText.storable_members _⟩
  simp [IsStorable.bool, storable_filters _ (depth + 1)]

theorem ofMembers?_shown {c : TaskListSettings} (hFits : LimitFits c.limit)
    (h : Presents sorted c.members shown) : ofMembers? shown = some c := by
  obtain ⟨found, rest, hFound, hParts, hRest⟩ := h.recordAndRest c.names_own.subset
    (c.freeText.disjoint_members (by decide) (by decide))
  have hFilters : found.withDefault "filters" [] (list? Filter.ofJson?) = some c.filters :=
    hParts.withDefault rfl (restores_filters _)
  have hShow : found.withDefault "showCompleted" false bool? = some c.showCompleted :=
    hParts.withDefault rfl (restores_bool _)
  have hLimit : found.optional "limit" nat64? = some c.limit :=
    optional_limit hParts (by simp [limitJson, List.lookup_cons, lookup_optional]) hFits
  have hFreeText := FreeTextFilter.ofMembers?_shown hRest
  simp [ofMembers?, hFound, hFilters, hShow, hLimit, hFreeText]

end TaskListSettings

namespace CompareSettings

theorem storable (c : CompareSettings) (depth : Nat) :
    IsStorable (K := K) (depth + 5) c.toJson := by
  refine .object (c.names_sublist.nodup (by decide)) (List.forall_mem_append.2
    ⟨List.forall_mem_append.2 ⟨?_, storable_optional_text _ _ _⟩, ?_⟩)
  · simp [IsStorable.text, c.timeframe.storable, storable_filters _ depth]
  · simp [IsStorable.text]

theorem restores (c : CompareSettings) : Restores (K := K) ofJson? c.toJson c := by
  intro sorted
  obtain ⟨found, hFound, hParts⟩ :=
    (storable (K := K) c 0).exists_record rfl c.names_sublist.subset sorted
  have hMode : found.withDefault "mode" .none (choice? isNothing Baseline.names) = some c.mode :=
    hParts.withDefault rfl c.mode.restores
  have hRange : found.withDefault "range" .always Timeframe.ofJson? = some c.timeframe :=
    hParts.withDefault rfl c.timeframe.restores
  have hFilters : found.withDefault "filters" [] (list? Filter.ofJson?) = some c.filters :=
    hParts.withDefault rfl (restores_filters _)
  have hLabel : found.optional "label" text? = some c.label :=
    hParts.optionalText (by simp [List.lookup_append, List.lookup_cons, lookup_optional])
  have hDisplay : found.withDefault "display" .number (choice? isNothing DeltaForm.names) =
      some c.display :=
    hParts.withDefault (by simp [List.lookup_append, List.lookup_cons, lookup_optional])
      c.display.restores
  have hBasis : found.withDefault "basis" .total (choice? isNothing Rate.names) = some c.basis :=
    hParts.withDefault (by simp [List.lookup_append, List.lookup_cons, lookup_optional])
      c.basis.restores
  simp [ofJson?, hFound, hMode, hRange, hFilters, hLabel, hDisplay, hBasis]

end CompareSettings

namespace CountSettings

theorem storable_members (c : CountSettings) (depth : Nat) :
    ∀ m ∈ c.members (K := K), IsStorable (depth + 5) m.2 := by
  refine List.forall_mem_append.2 ⟨?_, c.freeText.storable_members _⟩
  simp [IsStorable.text, c.timeframe.storable, storable_filters _ (depth + 1),
    c.compare.storable depth]

theorem ofMembers?_shown {c : CountSettings} (h : Presents sorted c.members shown) :
    ofMembers? shown = some c := by
  obtain ⟨found, rest, hFound, hParts, hRest⟩ := h.recordAndRest
    (show _ ⊆ ["filters", "countTarget", "timeField", "timeRange", "compare"] from
      List.Subset.refl _) (c.freeText.disjoint_members (by decide) (by decide))
  have hFilters : found.withDefault "filters" [] (list? Filter.ofJson?) = some c.filters :=
    hParts.withDefault rfl (restores_filters _)
  have hCounted : found.withDefault "countTarget" .notes Counted.ofJson? = some c.counted :=
    hParts.withDefault rfl c.counted.restores_targetName
  have hStamp : found.withDefault "timeField" .created StampKind.ofJson? = some c.stamp :=
    hParts.withDefault rfl c.stamp.restores
  have hTimeframe : found.withDefault "timeRange" .always Timeframe.ofJson? = some c.timeframe :=
    hParts.withDefault rfl c.timeframe.restores
  have hCompare : found.withDefault "compare" .new CompareSettings.ofJson? = some c.compare :=
    hParts.withDefault rfl c.compare.restores
  have hFreeText := FreeTextFilter.ofMembers?_shown hRest
  simp [ofMembers?, hFound, hFilters, hCounted, hStamp, hTimeframe, hCompare, hFreeText]

end CountSettings

namespace ProgressSettings

omit [Numeral K] in
/-- The members with a target as it is written. -/
def membersWith (c : ProgressSettings K) (target : Json K) : List (String × Json K) :=
  [("filters", filtersJson c.filters), ("countTarget", .text c.counted.targetName),
    ("timeField", .text c.stamp.name), ("timeRange", c.timeframe.toJson), ("target", target)] ++
    c.freeText.members

theorem storable_membersWith (c : ProgressSettings K) {target : Json K} {depth : Nat}
    (h : IsStorable (depth + 5) target) :
    ∀ m ∈ c.membersWith target, IsStorable (depth + 5) m.2 := by
  refine List.forall_mem_append.2 ⟨?_, c.freeText.storable_members _⟩
  simp [IsStorable.text, h, c.timeframe.storable, storable_filters _ (depth + 1)]

/-- The settings are read with the target that is read for the one that is written. -/
theorem ofMembers?_shown {c : ProgressSettings K} {target : Json K}
    (h : Presents sorted (c.membersWith target) shown) :
    ofMembers? shown = (target.form sorted).number?.map fun x => { c with target := x } := by
  obtain ⟨found, rest, hFound, hParts, hRest⟩ := h.recordAndRest
    (show _ ⊆ ["filters", "countTarget", "timeField", "timeRange", "target"] from
      List.Subset.refl _) (c.freeText.disjoint_members (by decide) (by decide))
  have hFilters : found.withDefault "filters" [] (list? Filter.ofJson?) = some c.filters :=
    hParts.withDefault rfl (restores_filters _)
  have hCounted : found.withDefault "countTarget" .notes Counted.ofJson? = some c.counted :=
    hParts.withDefault rfl c.counted.restores_targetName
  have hStamp : found.withDefault "timeField" .created StampKind.ofJson? = some c.stamp :=
    hParts.withDefault rfl c.stamp.restores
  have hTimeframe : found.withDefault "timeRange" .always Timeframe.ofJson? = some c.timeframe :=
    hParts.withDefault rfl c.timeframe.restores
  have hTarget : found.withDefault "target" 100 number? = (target.form sorted).number? :=
    hParts.withDefault_eq rfl
  have hFreeText := FreeTextFilter.ofMembers?_shown hRest
  cases hNumber : (target.form sorted).number? <;>
    simp [ofMembers?, hFound, hFilters, hCounted, hStamp, hTimeframe, hTarget, hNumber, hFreeText]

end ProgressSettings

namespace ChartSettings

theorem storable_members {c : ChartSettings} (h : LimitFits c.limit) (depth : Nat) :
    ∀ m ∈ c.members (K := K), IsStorable (depth + 5) m.2 := by
  have hSeries : IsStorable (K := K) (depth + 5) (.array (c.series.map Series.toJson)) :=
    .array (List.forall_mem_map.2 fun s _ => s.storable depth)
  refine List.forall_mem_append.2 ⟨List.forall_mem_append.2 ⟨List.forall_mem_append.2
    ⟨?_, storable_limit h _⟩, List.forall_mem_singleton.2 hSeries⟩, c.freeText.storable_members _⟩
  simp [IsStorable.text, c.filter.storable (depth + 2)]

/-- A chart as it is read back: its field may have the name of another grouping. -/
def reread (c : ChartSettings) : ChartSettings :=
  { c with grouping := .ofText c.grouping.text }

theorem ofMembers?_shown {c : ChartSettings} (hFits : LimitFits c.limit)
    (h : Presents sorted c.members shown) : ofMembers? shown = some c.reread := by
  obtain ⟨found, rest, hFound, hParts, hRest⟩ := h.recordAndRest c.names_own.subset
    (c.freeText.disjoint_members (by decide) (by decide))
  have hMode : found.withDefault "mode" .group (choice? isNothing ChartContent.names) =
      some c.mode :=
    hParts.withDefault rfl c.mode.restores
  have hFilter : found.withDefault "filter" .everything Filter.ofJson? = some c.filter :=
    hParts.withDefault rfl c.filter.restores
  have hGrouping : found.withDefault "groupBy" .tag
      (fun value => value.text?.map Grouping.ofText) = some (.ofText c.grouping.text) :=
    hParts.withDefault rfl c.grouping.restores
  have hLimit : found.optional "limit" nat64? = some c.limit :=
    optional_limit hParts
      (by simp [limitJson, List.lookup_append, List.lookup_cons, lookup_optional]) hFits
  have hSeries : found.withDefault "series" [] (list? Series.ofJson?) = some c.series :=
    hParts.withDefault
      (by simp [limitJson, List.lookup_append, List.lookup_cons, lookup_optional])
      (restores_list fun s _ => s.restores)
  have hFreeText := FreeTextFilter.ofMembers?_shown hRest
  simp [ofMembers?, hFound, hMode, hFilter, hGrouping, hLimit, hSeries, hFreeText, reread]

end ChartSettings

namespace WidgetSettings

omit [Numeral K] in
/-- Settings as readers make them: limits are no larger than they take, and fields are not called
by the names of other groupings. -/
def AreRead : WidgetSettings K → Prop
  | .taskList c => LimitFits c.limit
  | .stats _ => True
  | .statusBar _ => True
  | .pieChart c => LimitFits c.limit ∧ c.grouping.IsNamed
  | .lineChart c => LimitFits c.limit ∧ c.grouping.IsNamed

omit [Numeral K] in
/-- The numbers in settings that are stored as such. -/
def numbers : WidgetSettings K → List K
  | .statusBar c => [c.target]
  | _ => []

omit [Numeral K] in
/-- The limit of a list or chart. -/
def limit : WidgetSettings K → Option Nat
  | .taskList c => c.limit
  | .pieChart c => c.limit
  | .lineChart c => c.limit
  | _ => none

omit [Numeral K] in
/-- Settings as they are read back. -/
def reread : WidgetSettings K → WidgetSettings K
  | .pieChart c => .pieChart c.reread
  | .lineChart c => .lineChart c.reread
  | s => s

omit [Numeral K] in
theorem type_reread (s : WidgetSettings K) : s.reread.type = s.type := by
  cases s <;> simp only [reread, type]

variable {s : WidgetSettings K}

omit [Numeral K] in
theorem AreRead.limitFits (h : s.AreRead) : LimitFits s.limit := by
  cases s with
  | taskList c => exact h
  | stats c => exact nofun
  | statusBar c => exact nofun
  | pieChart c => exact h.1
  | lineChart c => exact h.1

omit [Numeral K] in
theorem AreRead.reread_eq (h : s.AreRead) : s.reread = s := by
  have hChart {c : ChartSettings} (hNamed : c.grouping.IsNamed) : c.reread = c := by
    rw [ChartSettings.reread, hNamed]
  cases s with
  | pieChart c => exact congrArg _ (hChart h.2)
  | lineChart c => exact congrArg _ (hChart h.2)
  | _ => rfl

theorem storable_members (hLimit : LimitFits s.limit) (hNumbers : ∀ x ∈ s.numbers, ReadsBack x)
    (depth : Nat) : ∀ m ∈ s.members, IsStorable (depth + 5) m.2 := by
  refine List.forall_mem_cons.2 ⟨.text _, ?_⟩
  cases s with
  | taskList c => exact c.storable_members hLimit depth
  | stats c => exact c.storable_members depth
  | statusBar c =>
      exact c.storable_membersWith (.real (hNumbers _ (List.mem_singleton_self _)))
  | pieChart c => exact c.storable_members hLimit depth
  | lineChart c => exact c.storable_members hLimit depth

theorem ofMembers?_shown (hLimit : LimitFits s.limit) (h : Presents sorted s.members shown) :
    ofMembers? shown = some s.reread := by
  obtain ⟨rest, hTag, hRest⟩ := h.tagged s.type.restores
  cases s with
  | taskList c =>
      simp [ofMembers?, hTag, type, TaskListSettings.ofMembers?_shown hLimit hRest, reread]
  | stats c => simp [ofMembers?, hTag, type, CountSettings.ofMembers?_shown hRest, reread]
  | statusBar c =>
      have hBar : Presents sorted (c.membersWith (.real c.target)) rest := hRest
      simp [ofMembers?, hTag, type, ProgressSettings.ofMembers?_shown hBar, number?, reread]
  | pieChart c =>
      simp [ofMembers?, hTag, type, ChartSettings.ofMembers?_shown hLimit hRest, reread]
  | lineChart c =>
      simp [ofMembers?, hTag, type, ChartSettings.ofMembers?_shown hLimit hRest, reread]

end WidgetSettings

namespace Widget

omit [Numeral K] in
/-- The numbers of a widget that are stored. -/
def numbers (w : Widget K) : List K :=
  [w.x, w.y, w.w, w.h] ++ w.settings.numbers

variable {w : Widget K}

theorem storable_ownMembers (h : ∀ x ∈ [w.x, w.y, w.w, w.h], ReadsBack x) (depth : Nat) :
    ∀ m ∈ w.ownMembers, IsStorable depth m.2 := by
  simp only [List.forall_mem_cons] at h
  obtain ⟨hx, hy, hw, hh, -⟩ := h
  refine List.forall_mem_append.2 ⟨List.forall_mem_append.2 ⟨List.forall_mem_append.2
    ⟨?_, storable_optional_text _ _ _⟩, ?_⟩, storable_optional_text _ _ _⟩
  · simp [IsStorable.text, IsStorable.real hx, IsStorable.real hy, IsStorable.real hw,
      IsStorable.real hh]
  · simp [IsStorable.text]

section Settings

-- The settings need not be those of the widget, only their names.
variable {settings : List (String × Json K)}
  (hNames : settings.map Prod.fst = w.settings.members.map Prod.fst)

include hNames

theorem storable_object (hPlace : ∀ x ∈ [w.x, w.y, w.w, w.h], ReadsBack x) {depth : Nat}
    (hSettings : ∀ m ∈ settings, IsStorable (depth + 5) m.2) :
    IsStorable (depth + 6) (.object (w.ownMembers ++ settings)) := by
  obtain ⟨names, hSublist, hNodup⟩ := w.settings.exists_names
  refine .object ?_ (List.forall_mem_append.2 ⟨storable_ownMembers hPlace _, hSettings⟩)
  rw [List.map_append, hNames]
  exact (w.names_own.append hSublist).nodup hNodup

/-- A widget is read with the settings that are read for those that are written. -/
theorem ofJson?_shown (h : Presents sorted (w.ownMembers ++ settings) shown) :
    ∃ rest, Presents sorted settings rest ∧ ofJson? (.object shown) =
      (WidgetSettings.ofMembers? rest).map fun s => { w with settings := s } := by
  obtain ⟨names, hSublist, hNodup⟩ := w.settings.exists_names
  have hInner : (settings.map Prod.fst).Disjoint ownNames := fun name hMem hOwn =>
    (List.nodup_append.1 hNodup).2.2 name hOwn name (hSublist.subset (hNames ▸ hMem)) rfl
  obtain ⟨found, rest, hFound, hParts, hRest⟩ := h.recordAndRest w.names_own.subset hInner
  have hId : found.withDefault "id" "" text? = some w.id :=
    hParts.withDefault rfl (restores_text _)
  have hx : found.withDefault "x" (0 / 0) lenientNumber? = some w.x :=
    hParts.withDefault rfl (restores_lenientNumber _)
  have hy : found.withDefault "y" (0 / 0) lenientNumber? = some w.y :=
    hParts.withDefault rfl (restores_lenientNumber _)
  have hw : found.withDefault "w" (0 / 0) lenientNumber? = some w.w :=
    hParts.withDefault rfl (restores_lenientNumber _)
  have hh : found.withDefault "h" (0 / 0) lenientNumber? = some w.h :=
    hParts.withDefault rfl (restores_lenientNumber _)
  have hTitle : found.optional "title" text? = some w.title := hParts.optionalText
    (by simp [ownMembers, List.lookup_append, List.lookup_cons, lookup_optional])
  have hSize : found.withDefault "titleSize" .medium (choice? isNull TitleSize.names) =
      some w.titleSize :=
    hParts.withDefault (by simp [ownMembers, List.lookup_append, List.lookup_cons, lookup_optional])
      w.titleSize.restores
  have hSide : found.withDefault "titleSide" .left (choice? isNull TitleSide.names) =
      some w.titleSide :=
    hParts.withDefault (by simp [ownMembers, List.lookup_append, List.lookup_cons, lookup_optional])
      w.titleSide.restores
  have hIcon : found.optional "headerIcon" text? = some w.headerIcon := hParts.optionalText
    (by simp [ownMembers, List.lookup_append, List.lookup_cons, lookup_optional])
  refine ⟨rest, hRest, ?_⟩
  cases hSettings : (WidgetSettings.ofMembers? rest : Option (WidgetSettings K)) <;>
    simp [ofJson?, hFound, hId, hx, hy, hw, hh, hTitle, hSize, hSide, hIcon, hSettings]

end Settings

theorem storable (hLimit : LimitFits w.settings.limit) (hNumbers : ∀ x ∈ w.numbers, ReadsBack x)
    (depth : Nat) : IsStorable (depth + 6) w.toJson := by
  obtain ⟨hPlace, hSettings⟩ := List.forall_mem_append.1 hNumbers
  exact storable_object rfl hPlace (WidgetSettings.storable_members hLimit hSettings depth)

omit [Numeral K] in
/-- A widget as it is read back. -/
def reread (w : Widget K) : Widget K :=
  { w with settings := w.settings.reread }

omit [Numeral K] in
theorem type_reread (w : Widget K) : w.reread.type = w.type :=
  w.settings.type_reread

omit [Numeral K] in
theorem reread_eq (h : w.settings.AreRead) : w.reread = w := by
  rw [reread, h.reread_eq]

theorem restores (hLimit : LimitFits w.settings.limit) (hNumbers : ∀ x ∈ w.numbers, ReadsBack x) :
    Restores ofJson? w.toJson w.reread := by
  intro sorted
  obtain ⟨shown, hForm, hShown⟩ := (storable hLimit hNumbers 0).exists_shown sorted
  obtain ⟨rest, hRest, hRead⟩ := ofJson?_shown rfl hShown
  rw [toJson, hForm, hRead, WidgetSettings.ofMembers?_shown hLimit hRest]
  rfl

end Widget
end NoteBoard
