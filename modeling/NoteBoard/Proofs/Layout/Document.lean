import NoteBoard.Layout.Document
import NoteBoard.Proofs.Layout.Tidied
import NoteBoard.Proofs.Widget.Reading

/-! Documents of layouts: a tidied layout is read back from its document as it was. -/
namespace NoteBoard

open Json

theorem Coordinates.restores {K : Type} (c : Coordinates) :
    Restores (K := K) (choice? isNull Coordinates.names) (.text c.name) c :=
  restores_choice (by cases c <;> rfl)

namespace Layout

section Written

variable {K : Type}

/-- The numbers of a layout that are stored, besides the count of columns. -/
def numbers (l : Layout K) : List K :=
  [l.rowHeight, l.gap] ++ l.widgets.flatMap Widget.numbers

theorem numbers_of_mem {p : K → Prop} {l : Layout K} (h : ∀ x ∈ l.numbers, p x) :
    ∀ w ∈ l.widgets, ∀ x ∈ w.numbers, p x :=
  fun w hw x hx => h x (List.mem_append_right _ (List.mem_flatMap.2 ⟨w, hw, hx⟩))

/-- The members of a layout with the measures and widgets as they are written. -/
def membersWith (l : Layout K) (height gap : Json K) (items : List (Json K)) :
    List (String × Json K) :=
  [("columns", .integer l.columns), ("rowHeight", height), ("gap", gap),
    ("unit", .text l.unit.name), ("widgets", .array items)]

variable [Numeral K]

section Members

variable {l : Layout K} {height gap : Json K} {items : List (Json K)}

theorem storable_membersWith (hColumns : l.columns < twoTo 32) {depth : Nat}
    (hHeight : IsStorable (depth + 1) height) (hGap : IsStorable (depth + 1) gap)
    (hItems : ∀ item ∈ items, IsStorable depth item) :
    IsStorable (depth + 2) (.object (l.membersWith height gap items)) := by
  have hRange : twoTo 32 ≤ Literal.significandLimit := by decide
  have hCount : l.columns ≤ Literal.significandLimit := (hColumns.trans_le hRange).le
  have hWidgets : IsStorable (depth + 1) (.array items) := .array hItems
  exact .object (by simp [membersWith])
    (by simp [membersWith, IsStorable.integer hCount, hHeight, hGap, IsStorable.text, hWidgets])

variable {sorted : Bool} {shown : List (String × Json K)}

theorem ofRecord?_shown {members : List (String × Json K)} {r : Record K}
    (hParts : Presents sorted members r.parts)
    (hColumns : members.lookup "columns" = some (.integer l.columns))
    (hHeight : members.lookup "rowHeight" = some height) (hGap : members.lookup "gap" = some gap)
    (hUnit : members.lookup "unit" = some (.text l.unit.name)) (widgets : List (Widget K)) :
    ofRecord? r widgets = some ⟨wholePart (Number.ofInt l.columns : K),
      (height.form sorted).lenient, (gap.form sorted).lenient, l.unit, widgets⟩ := by
  have hCount : Restores (K := K) lenientCount? (.integer l.columns)
      (wholePart (Number.ofInt l.columns : K)) := fun _ => by
    rw [form_integer]
    rfl
  have hColumnsRead : r.withDefault "columns" standardColumns lenientCount? =
      some (wholePart (Number.ofInt l.columns : K)) := hParts.withDefault hColumns hCount
  have hHeightRead : r.withDefault "rowHeight" standardRowHeight lenientNumber? =
      some (height.form sorted).lenient := hParts.lenientNumber hHeight
  have hGapRead : r.withDefault "gap" standardGap lenientNumber? =
      some (gap.form sorted).lenient := hParts.lenientNumber hGap
  have hUnitRead : r.withDefault "unit" .cells (choice? isNull Coordinates.names) = some l.unit :=
    hParts.withDefault hUnit l.unit.restores
  simp [ofRecord?, hColumnsRead, hHeightRead, hGapRead, hUnitRead]

/-- The forgiving reader takes the widgets that it can read. -/
theorem ofLenientObject_shown (h : Presents sorted (l.membersWith height gap items) shown) :
    ofLenientObject (.object shown) = .ok ⟨wholePart (Number.ofInt l.columns : K),
      (height.form sorted).lenient, (gap.form sorted).lenient, l.unit,
      (items.map (form sorted)).filterMap Widget.ofJson?⟩ := by
  have hItems : shown.lookup "widgets" = some (.array (items.map (form sorted))) := by
    rw [h.lookup]
    exact congrArg some (form_array sorted _)
  have hHeader : Presents sorted ([("columns", .integer l.columns), ("rowHeight", height),
      ("gap", gap), ("unit", .text l.unit.name)] ++ [("widgets", .array items)]) shown := h
  obtain ⟨found, hFound, hParts⟩ := hHeader.record
    (show _ ⊆ ["columns", "rowHeight", "gap", "unit"] from List.Subset.refl _) (by simp)
  have hRead := ofRecord?_shown hParts rfl rfl rfl rfl
    ((items.map (form sorted)).filterMap Widget.ofJson?)
  simp only [ofLenientObject, hItems, hFound, Option.bind_some, hRead]

/-- What is wrapped with the version. -/
theorem storable_wrapped {depth : Nat} {layout : Json K} (h : IsStorable depth layout) :
    IsStorable (depth + 1)
      (.object [("schemaVersion", .integer documentVersion), ("layout", layout)]) := by
  have hVersion : documentVersion ≤ Literal.significandLimit := by decide
  exact .object (by simp) (by simp [IsStorable.integer hVersion, h])

/-- The forgiving reader finds what is wrapped with the version. -/
theorem ofText_wrapped {depth : Nat} {layout : Json K} (h : IsStorable depth layout)
    (hDepth : depth + 1 ≤ depthLimit) :
    ofText (Json.object [("schemaVersion", .integer documentVersion), ("layout", layout)]).pretty =
      ofLenientObject (layout.form true) := by
  obtain ⟨shown, hForm, hShown⟩ := (storable_wrapped h).exists_shown true
  have hVersion : shown.lookup "schemaVersion" = some (.integer 1) := by
    rw [hShown.lookup]
    exact congrArg some (form_integer true _)
  have hLayout : shown.lookup "layout" = some (layout.form true) := by
    rw [hShown.lookup]
    rfl
  rw [ofText, (storable_wrapped h).readCanonical?_pretty hDepth, hForm]
  simp only [ofLenientJson, member?, hVersion, hLayout]

end Members

/-- A layout that has what a reader would make of its document: the count of columns is one that is
read, the settings are as they are read, and the numbers are read back. -/
structure IsPortable (l : Layout K) : Prop where
  columns_lt : l.columns < twoTo 32
  columns_whole : wholePart (Number.ofInt l.columns : K) = l.columns
  settings : ∀ w ∈ l.widgets, w.settings.AreRead
  numbers : ∀ x ∈ l.numbers, ReadsBack x

namespace IsPortable

variable {l : Layout K} (h : l.IsPortable)

include h

theorem storable : IsStorable 8 l.toJson := by
  have hHeight : ReadsBack l.rowHeight := h.numbers _ (by simp [Layout.numbers])
  have hGap : ReadsBack l.gap := h.numbers _ (by simp [Layout.numbers])
  exact storable_membersWith h.columns_lt (.real hHeight) (.real hGap)
    (List.forall_mem_map.2 fun w hw =>
      Widget.storable (h.settings w hw).limitFits (numbers_of_mem h.numbers w hw) 0)

theorem restores_widget : ∀ w ∈ l.widgets, Restores Widget.ofJson? w.toJson w := by
  intro w hw
  have hRestores := Widget.restores (h.settings w hw).limitFits (numbers_of_mem h.numbers w hw)
  rwa [Widget.reread_eq (h.settings w hw)] at hRestores

theorem restores : Restores ofJson? l.toJson l := by
  intro sorted
  obtain ⟨found, hFound, hParts⟩ := h.storable.exists_record rfl
    (show _ ⊆ ["columns", "rowHeight", "gap", "unit", "widgets"] from List.Subset.refl _) sorted
  have hWidgets : found.withDefault "widgets" [] (list? Widget.ofJson?) = some l.widgets :=
    hParts.withDefault rfl (restores_list h.restores_widget)
  have hRead := ofRecord?_shown (l := l) hParts rfl rfl rfl rfl l.widgets
  simp [ofJson?, hFound, hWidgets, hRead, h.columns_whole, lenient]

/-- The forgiving reader leaves no widget out. -/
theorem ofLenientObject_form (sorted : Bool) :
    ofLenientObject (l.toJson.form sorted) = .ok l := by
  obtain ⟨shown, hForm, hShown⟩ := h.storable.exists_shown sorted
  have hRead := ofLenientObject_shown (l := l) hShown
  rw [toJson, hForm, hRead, filterMap_form h.restores_widget]
  simp [h.columns_whole, lenient]

theorem restores_contract : Restores ofContract? l.contract (1, l) := by
  intro sorted
  obtain ⟨found, hFound, hParts⟩ := (storable_wrapped h.storable).exists_record rfl
    (show _ ⊆ ["schemaVersion", "layout"] from List.Subset.refl _) sorted
  have hVersion : found.required "schemaVersion" nat32? = some 1 :=
    hParts.required rfl (restores_nat32 (by decide))
  have hLayout : found.required "layout" ofJson? = some l := hParts.required rfl h.restores
  simp [contract, ofContract?, hFound, hVersion, hLayout]

/-- The forgiving reader restores the layout from its document. -/
theorem ofText_pretty : ofText l.contract.pretty = .ok l := by
  rw [contract, ofText_wrapped h.storable (by decide), h.ofLenientObject_form]

/-- So does the strict reader, with the version. -/
theorem read_pretty : (read? l.contract.pretty).bind ofContract? = some (1, l) := by
  rw [contract, (storable_wrapped h.storable).read?_pretty (by decide)]
  exact h.restores_contract false

end IsPortable

end Written

section Read

variable {K : Type} [Numeral K]

theorem wholePart_lt (x : K) : wholePart x < twoTo 32 := by
  have hPositive : 0 < twoTo 32 := twoTo_pos 32
  unfold wholePart
  split
  · split
    · omega
    · exact hPositive
  · exact hPositive

/-- A layout as readers make it: the count of columns and the settings are what they take, and all
numbers in the settings are in a class that has those of the document. -/
structure IsRead (p : K → Prop) (l : Layout K) : Prop where
  columns_lt : l.columns < twoTo 32
  settings : ∀ w ∈ l.widgets, w.settings.AreRead
  numbers : ∀ w ∈ l.widgets, ∀ x ∈ w.settings.numbers, p x

variable {p : K → Prop} {l : Layout K}

theorem isRead_of_ofRecord? {r : Record K} {widgets : List (Widget K)}
    (hWidgets : ∀ w ∈ widgets, w.settings.AreRead ∧ ∀ x ∈ w.settings.numbers, p x)
    (h : ofRecord? r widgets = some l) : l.IsRead p := by
  simp only [ofRecord?, Option.bind_eq_bind, Option.bind_eq_some_iff, Option.pure_def,
    Option.some.injEq] at h
  obtain ⟨columns, hColumns, _, -, _, -, _, -, rfl⟩ := h
  refine ⟨?_, fun w hw => (hWidgets w hw).1, fun w hw => (hWidgets w hw).2⟩
  unfold Record.withDefault at hColumns
  split at hColumns
  · obtain ⟨x, -, rfl⟩ := Option.map_eq_some_iff.1 hColumns
    exact wholePart_lt x
  · cases hColumns
    show standardColumns < twoTo 32
    decide

variable (hWhole : ∀ n, p (Number.ofInt n)) (hDefault : p 100)

include hWhole hDefault

theorem isRead_of_ofLenientObject {value : Json K} (hValue : value.AllNumbers p)
    (h : ofLenientObject value = .ok l) : l.IsRead p := by
  cases hValue with
  | object hMembers =>
      rename_i members
      simp only [ofLenientObject] at h
      split at h
      · next l' hLayout =>
        cases h
        obtain ⟨r, -, hRecord⟩ := Option.bind_eq_some_iff.1 hLayout
        refine isRead_of_ofRecord? (fun w hw => ?_) hRecord
        split at hw
        · next items hItems =>
          obtain ⟨item, hItem, hWidget⟩ := List.mem_filterMap.1 hw
          cases hMembers _ (mem_of_lookup hItems) with
          | array hAll =>
              exact ⟨Widget.areRead_of_read hWidget,
                Widget.numbers_of_read hWhole hDefault (hAll item hItem) hWidget⟩
        · exact absurd hw List.not_mem_nil
      · cases h
  | _ => cases h

theorem isRead_of_ofLenientJson {value : Json K} (hValue : value.AllNumbers p)
    (h : ofLenientJson value = .ok l) : l.IsRead p := by
  unfold ofLenientJson at h
  split at h
  · exact isRead_of_ofLenientObject hWhole hDefault hValue h
  · split at h
    · next layout hLayout =>
      cases hValue with
      | object hMembers =>
          exact isRead_of_ofLenientObject hWhole hDefault (hMembers _ (mem_of_lookup hLayout)) h
      | _ => cases hLayout
    · cases h
  · cases h

theorem isRead_of_ofText (hReal : ∀ parts x, Literal.real? parts = some x → p x) {text : String}
    (h : ofText text = .ok l) : l.IsRead p := by
  unfold ofText at h
  split at h
  · next value hValue =>
    exact isRead_of_ofLenientJson hWhole hDefault (allNumbers_readCanonical? hReal hValue) h
  · cases h

end Read

theorem tidy_settings {K : Type} [Number K] [LabelSource] {l t : Layout K} {limit : Nat}
    {labels labels' : Labels} (h : l.tidy limit labels = .ok (t, labels')) :
    ∀ w ∈ t.widgets, ∃ v ∈ l.widgets, v.settings = w.settings := by
  intro w hw
  have hContent : w.content ∈ l.widgets.map Widget.content :=
    tidy_content h ▸ List.mem_map_of_mem hw
  obtain ⟨v, hv, hSame⟩ := List.mem_map.1 hContent
  exact ⟨v, hv, congrArg (fun content => content.2.2.2.2) hSame⟩

theorem wholePart_ofInt {n : Nat} (hPositive : 0 < n) (hSmall : n < twoTo 32) :
    wholePart (Number.ofInt n : Exact) = n := by
  have hSize : Numeral.size? (Number.ofInt n : Exact) = some (n, 1) := by
    show some (((n : Int) : Rat).num.natAbs, ((n : Int) : Rat).den) = _
    simp
  have hOne : (1 : Exact) ≤ Number.ofInt n := by
    show (1 : Exact) ≤ Exact.whole n
    rw [Exact.one_eq_whole, Exact.whole_le]
    omega
  simp only [wholePart, hSize, if_pos hOne, Nat.div_one]
  omega

theorem isFinite_numbers {l : Layout Exact} (h : l.IsRepaired)
    (hSettings : ∀ w ∈ l.widgets, ∀ x ∈ w.settings.numbers, Number.isFinite x = true) :
    ∀ x ∈ l.numbers, Number.isFinite x = true := by
  refine List.forall_mem_append.2 ⟨?_, fun x hx => ?_⟩
  · simp [h.rowHeight_pos.1, h.gap_nonneg.1]
  · obtain ⟨w, hw, hx⟩ := List.mem_flatMap.1 hx
    have hPlace : ∀ x ∈ [w.x, w.y, w.w, w.h], Number.isFinite x = true := by
      simpa [Rect.isFinite, Widget.rect, and_assoc] using h.isFinite w hw
    exact List.forall_mem_append.2 ⟨hPlace, hSettings w hw⟩ x hx

section Exact

variable [LabelSource]

/-- Whatever text a layout was read from, its tidied form is read back from its own document, by
the forgiving reader and with the version by the strict one, if its numbers are. -/
theorem tidied_document {text : String} {l : Layout Exact} (hRead : ofText text = .ok l)
    (limit : Nat) (labels : Labels) :
    ∃ t labels', l.tidy limit labels = .ok (t, labels') ∧
      ((∀ x ∈ t.numbers, Number.isFinite x = true → ReadsBack x) →
        ofText t.contract.pretty = .ok t ∧
          (read? t.contract.pretty).bind ofContract? = some (1, t)) := by
  obtain ⟨r, labels', hTidy, hRepaired, -, -⟩ := l.exists_tidy limit labels
  have hSettled : (r.settle none limit).IsRepaired := hRepaired.settle none limit
  obtain ⟨-, hColumns, -⟩ := tidy_measures hTidy
  have hSettings := tidy_settings hTidy
  have hFinite (parts : Literal.Parts) (x : Exact) (hx : Literal.real? parts = some x) :
      Number.isFinite x = true := Literal.isFinite_real? hx
  have hMade : l.IsRead (fun x => Number.isFinite x = true) :=
    isRead_of_ofText (fun _ => rfl) rfl hFinite hRead
  have hColumnsLt : (r.settle none limit).columns < twoTo 32 := by
    rw [hColumns, tidyColumns]
    split
    · decide
    · exact hMade.columns_lt
  refine ⟨_, labels', hTidy, fun hNumbers => ?_⟩
  have hPortable : (r.settle none limit).IsPortable := by
    refine ⟨hColumnsLt, wholePart_ofInt hSettled.columns_pos hColumnsLt, ?_, ?_⟩
    · intro w hw
      obtain ⟨v, hv, hSame⟩ := hSettings w hw
      exact hSame ▸ hMade.settings v hv
    · intro x hx
      refine hNumbers x hx (isFinite_numbers hSettled ?_ x hx)
      intro w hw
      obtain ⟨v, hv, hSame⟩ := hSettings w hw
      exact hSame ▸ hMade.numbers v hv
  exact ⟨hPortable.ofText_pretty, hPortable.read_pretty⟩

end Exact

/-- A bare layout as other programs write it: with numbers in texts, other names of choices, fields
of older documents, members and measures left out, an id twice, and what is no widget. -/
def olderDocument : Json Exact :=
  .object [("columns", .text " 12 "), ("gap", .null), ("widgets", .array [
    .object [("type", .text "stats"), ("id", .text "a"), ("countTarget", .text "pages"),
      ("timeField", .object [("mtime", .null)]), ("query", .text "tag:a"), ("x", .text "3")],
    .object [("type", .integer 2), ("id", .text "a"), ("target", .integer 7), ("w", .null)],
    .object [("type", .text "line-chart"), ("groupBy", .text " tags "), ("limit", .integer 5),
      ("series", .array [.object [("label", .text "n")]]), ("titleSize", .text "large")],
    .object [("type", .text "clock")],
    .integer 42])]

theorem olderDocument_storable : IsStorable 6 olderDocument := by
  simp [olderDocument, IsStorable.object_iff, IsStorable.array_iff, IsStorable.integer_iff,
    IsStorable.text, IsStorable.null, Literal.significandLimit, twoTo]

theorem olderDocument_restored : ∃ (l t : Layout Exact) (labels : Labels),
    ofText olderDocument.pretty = .ok l ∧ l.tidy standardLimit ⟨0⟩ = .ok (t, labels) ∧
      t.widgets.map Widget.type = [.stats, .statusBar, .lineChart] ∧
      ofText t.contract.pretty = .ok t ∧
      (read? t.contract.pretty).bind ofContract? = some (1, t) := by
  have hRun : (match ofLenientJson (olderDocument.form true) with
      | .ok l => match l.tidy standardLimit ⟨0⟩ with
        | .ok (t, _) => decide (t.widgets.map Widget.type = [.stats, .statusBar, .lineChart] ∧
            ∀ x ∈ t.numbers, ReadsBack x)
        | .error _ => false
      | .error _ => false) = true := by decide +kernel
  have hText : ofText olderDocument.pretty = ofLenientJson (olderDocument.form true) := by
    rw [ofText, olderDocument_storable.readCanonical?_pretty (by decide)]
  cases hLayout : ofLenientJson (olderDocument.form true) with
  | error e =>
      rw [hLayout] at hRun
      cases hRun
  | ok l =>
      obtain ⟨t, labels, hTidy, hRestored⟩ :=
        tidied_document (hText.trans hLayout) standardLimit ⟨0⟩
      simp only [hLayout, hTidy] at hRun
      obtain ⟨hTypes, hNumbers⟩ := of_decide_eq_true hRun
      obtain ⟨hForgiving, hStrict⟩ := hRestored fun x hx _ => hNumbers x hx
      exact ⟨l, t, labels, hText.trans hLayout, hTidy, hTypes, hForgiving, hStrict⟩

end Layout
end NoteBoard
