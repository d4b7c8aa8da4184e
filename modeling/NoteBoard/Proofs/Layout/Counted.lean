import NoteBoard.Proofs.Geometry.Counted
import NoteBoard.Proofs.Layout.Cells
import NoteBoard.Proofs.Layout.Document
import NoteBoard.Proofs.Number.Canonical

/-! Layouts in pixels as they were read, which is without any repair, turned into cells. A number
that is missing in the document is none that could be counted in columns. -/
namespace NoteBoard

namespace Layout

open Json
open Grid (IsCountable)

section Counted

variable {K : Type} [Number K]

theorem toCells_of_columnWidth?_eq_none {l : Layout K} {padding : K} {c : Container K}
    (hPixels : l.unit = .pixels) (h : (l.grid padding).columnWidth? c = none) :
    l.toCells padding c = .error (.container c.width c.height) := by
  simp only [toCells, hPixels, columnWidth, h]
  rfl

variable [hExtended : Number.Extended K] [hK : Number.Ordered K] {l : Layout K} {padding width : K}
  {c : Container K} (hPixels : l.unit = .pixels) (hColumns : 0 < l.columns)
  (hCount : l.columns < twoTo 32) (hWidth : (l.grid padding).columnWidth? c = some width)
  (hPitch : 0 < width + l.gap)

include hPixels hColumns hCount hWidth hPitch

/-- Widgets of which all widths have a count of columns are placed within the columns. -/
theorem exists_toCells_counted (h : ∀ w ∈ l.widgets, IsCountable (width + l.gap) (w.w + l.gap)) :
    ∃ widgets, l.toCells padding c = .ok { l with unit := .cells, widgets := widgets } ∧
      List.Forall₂ (fun v w => w = v.withRect w.rect ∧
        (l.grid padding).IsCounted width v.rect w.rect) l.widgets widgets := by
  have hEach : ∀ v ∈ l.widgets, ∃ w,
      ((l.grid padding).toCells? width v.rect).map v.withRect = some w ∧ w = v.withRect w.rect ∧
        (l.grid padding).IsCounted width v.rect w.rect := by
    intro v hv
    obtain ⟨cells, hCells, hCounted⟩ := Grid.exists_isCounted (g := l.grid padding) (r := v.rect)
      hColumns hCount hPitch (h v hv)
    exact ⟨v.withRect cells, by rw [hCells, Option.map_some], rfl, hCounted⟩
  obtain ⟨widgets, hWidgets, hAll⟩ := exists_mapM hEach
  exact ⟨widgets, toCells_of_columnWidth hPixels (columnWidth_eq_ok_iff.2 hWidth) hWidgets, hAll⟩

/-- One width without a count of columns, and the layout has no cells. -/
theorem toCells_eq_emptyInterval {w : Widget K} (hw : w ∈ l.widgets)
    (h : ¬ IsCountable (width + l.gap) (w.w + l.gap)) :
    l.toCells padding c = .error .emptyInterval := by
  have hNone : l.widgets.mapM (fun w => ((l.grid padding).toCells? width w.rect).map w.withRect) =
      none := by
    refine mapM_eq_none hw ?_
    rw [Grid.toCells?_eq_none (g := l.grid padding) (r := w.rect) hColumns hCount hPitch h]
    rfl
  simp only [toCells, hPixels, columnWidth, hWidth, bind, Except.bind, hNone]
  rfl

end Counted

variable {K : Type} [Numeral K] [hExtended : Number.Extended K] [hK : Number.Ordered K]

/-- Whatever text a layout in pixels was read from, and whatever container it is put in: if there is
room for the columns, it has cells exactly if every width can be counted in columns, and then all
of its widgets lie within the columns, except those whose place cannot be counted. Where columns
have a finite pitch, what cannot be counted is what is not a number. -/
theorem read_toCells {text : String} {l : Layout K} (hRead : ofText text = .ok l)
    (hPixels : l.unit = .pixels) (hColumns : 0 < l.columns)
    (hGap : Number.isFinite l.gap = true ∧ 0 ≤ l.gap) {padding : K}
    (hPadding : Number.isFinite padding = true) (c : Container K) :
    ((l.grid padding).columnWidth? c = none ∧
        l.toCells padding c = .error (.container c.width c.height)) ∨
      ∃ width, (l.grid padding).columnWidth? c = some width ∧
        (l.toCells padding c = .error .emptyInterval ↔
          ∃ w ∈ l.widgets, ¬ IsCountable (width + l.gap) (w.w + l.gap)) ∧
        ((∀ w ∈ l.widgets, IsCountable (width + l.gap) (w.w + l.gap)) →
          ∃ widgets, l.toCells padding c = .ok { l with unit := .cells, widgets := widgets } ∧
            List.Forall₂ (fun v w => w = v.withRect w.rect ∧
              (l.grid padding).IsCounted width v.rect w.rect) l.widgets widgets) ∧
        (Number.isFinite (width + l.gap) = true → ∀ w ∈ l.widgets,
          (IsCountable (width + l.gap) (w.w + l.gap) ↔ Number.isNaN w.w = false) ∧
            (IsCountable (width + l.gap) (w.x - padding) ↔ Number.isNaN w.x = false)) := by
  have hCount : l.columns < twoTo 32 :=
    (isRead_of_ofText (p := fun _ => True) (fun _ => trivial) trivial (fun _ _ _ => trivial)
      hRead).columns_lt
  cases hWidth : (l.grid padding).columnWidth? c with
  | none => exact .inl ⟨rfl, toCells_of_columnWidth?_eq_none hPixels hWidth⟩
  | some width =>
      right
      obtain ⟨hFinite, hPositive⟩ := Grid.columnWidth?_pos hWidth
      have hPitch : 0 < width + l.gap := hK.add_pos hFinite hGap.1 hPositive hGap.2
      have hCells := exists_toCells_counted hPixels hColumns hCount hWidth hPitch
      refine ⟨width, rfl, ⟨?_, ?_⟩, hCells, fun hPitchFinite w _ => ⟨?_, ?_⟩⟩
      · intro hFails
        by_contra hNot
        obtain ⟨widgets, hOk, -⟩ := hCells (by simpa using hNot)
        simp [hFails] at hOk
      · rintro ⟨w, hw, hLost⟩
        exact toCells_eq_emptyInterval hPixels hColumns hCount hWidth hPitch hw hLost
      · rw [Grid.isCountable_iff_of_isFinite hPitchFinite, hK.isNaN_add hGap.1]
      · rw [Grid.isCountable_iff_of_isFinite hPitchFinite, hK.isNaN_sub (.inr hPadding),
          hExtended.isNaN_of_isFinite hPadding, Bool.or_false]

/-- What is seen of a document is seen of the layout that is read from its text. -/
theorem exists_ofText {doc : Json Float} (hStorable : IsStorable 3 doc) {p : Layout Float → Prop}
    [DecidablePred p] (hRun : (ofLenientJson (doc.form true)).toOption.any (p ·) = true) :
    ∃ l, ofText doc.pretty = .ok l ∧ p l := by
  have hText : ofText doc.pretty = ofLenientJson (doc.form true) := by
    rw [ofText, hStorable.readCanonical?_pretty (by decide)]
  rw [hText]
  cases hRead : ofLenientJson (doc.form true) with
  | error e =>
      rw [hRead] at hRun
      cases hRun
  | ok l =>
      rw [hRead] at hRun
      exact ⟨l, rfl, of_decide_eq_true hRun⟩

/-- A bare layout in pixels with one widget, which has a height and one other measure. -/
def halfPlaced (measure : String) : Json Float :=
  .object [("columns", .integer 12), ("unit", .text "px"), ("widgets", .array [.object
    [("id", .text "a"), ("type", .text "stats"), (measure, .integer 100), ("h", .integer 150)]])]

theorem storable_halfPlaced (measure : String) (h : measure ∉ ["id", "type", "h"]) :
    IsStorable 3 (halfPlaced measure) := by
  simp only [List.mem_cons, List.not_mem_nil, or_false, not_or] at h
  simp [halfPlaced, IsStorable.object_iff, IsStorable.array_iff, IsStorable.integer_iff,
    IsStorable.text, Literal.significandLimit, twoTo, h, eq_comm]

/-- A layout in pixels that has room for its columns, each of a finite pitch. -/
def HasRoom (l : Layout Float) (padding : Float) (c : Container Float) : Prop :=
  l.unit = .pixels ∧ 0 < l.columns ∧ (Number.isFinite l.gap = true ∧ 0 ≤ l.gap) ∧
    ∃ width ∈ (l.grid padding).columnWidth? c, Number.isFinite (width + l.gap) = true

instance (l : Layout Float) (padding : Float) (c : Container Float) :
    Decidable (l.HasRoom padding c) :=
  inferInstanceAs (Decidable (_ ∧ _ ∧ _ ∧ _))

/-- A widget without a width is in no column, and one without a place has none. -/
theorem halfPlaced_toCells :
    (∃ l : Layout Float, ofText (halfPlaced "x").pretty = .ok l ∧ l.HasRoom 16 ⟨1200, 800⟩ ∧
      l.toCells 16 ⟨1200, 800⟩ = .error .emptyInterval) ∧
    ∃ l : Layout Float, ofText (halfPlaced "w").pretty = .ok l ∧ l.HasRoom 16 ⟨1200, 800⟩ ∧
      ∃ v w : Widget Float, l.widgets = [v] ∧
        l.toCells 16 ⟨1200, 800⟩ = .ok { l with unit := .cells, widgets := [w] } ∧
        w.w ≤ Number.ofNat l.columns ∧ ¬ (0 ≤ w.x ∧ w.x ≤ Number.ofNat l.columns - w.w) := by
  have hPadding : Number.isFinite (16 : Float) = true := by decide +kernel
  constructor
  · obtain ⟨l, hRead, hRoom, v, hv, hMissing⟩ := exists_ofText
      (storable_halfPlaced "x" (by decide))
      (p := fun l => l.HasRoom 16 ⟨1200, 800⟩ ∧ ∃ v ∈ l.widgets, Number.isNaN v.w = true)
      (by decide +kernel)
    obtain ⟨hPixels, hColumns, hGap, width, hWidth, hPitch⟩ := id hRoom
    refine ⟨l, hRead, hRoom, ?_⟩
    obtain ⟨hNone, -⟩ | ⟨width', hSame, hFails, -, hCountable⟩ :=
      read_toCells hRead hPixels hColumns hGap hPadding ⟨1200, 800⟩
    · simp [hNone] at hWidth
    · obtain rfl : width' = width := by simpa [hSame] using hWidth
      refine hFails.2 ⟨v, hv, ?_⟩
      simp [(hCountable hPitch v hv).1, hMissing]
  · obtain ⟨l, hRead, hRoom, hOne, hKnown, hMissing⟩ := exists_ofText
      (storable_halfPlaced "w" (by decide))
      (p := fun l => l.HasRoom 16 ⟨1200, 800⟩ ∧ l.widgets.length = 1 ∧
        (∀ v ∈ l.widgets, Number.isNaN v.w = false) ∧ ∀ v ∈ l.widgets, Number.isNaN v.x = true)
      (by decide +kernel)
    obtain ⟨hPixels, hColumns, hGap, width, hWidth, hPitch⟩ := id hRoom
    obtain ⟨v, hWidgets⟩ := List.length_eq_one_iff.1 hOne
    have hv : v ∈ l.widgets := by simp [hWidgets]
    obtain ⟨hNone, -⟩ | ⟨width', hSame, -, hCells, hCountable⟩ :=
      read_toCells hRead hPixels hColumns hGap hPadding ⟨1200, 800⟩
    · simp [hNone] at hWidth
    · obtain rfl : width' = width := by simpa [hSame] using hWidth
      obtain ⟨widgets, hOk, hAll⟩ := hCells fun u hu => (hCountable hPitch u hu).1.2 (hKnown u hu)
      rw [hWidgets] at hAll
      obtain ⟨w, rest, ⟨-, hCounted⟩, hRest, rfl⟩ := List.forall₂_cons_left_iff.1 hAll
      obtain rfl := List.forall₂_nil_left_iff.1 hRest
      refine ⟨l, hRead, hRoom, v, w, hWidgets, hOk, hCounted.w_le, fun hPlaced => ?_⟩
      have hNumber := (hCountable hPitch v hv).2.1 (hCounted.x_iff.1 hPlaced)
      simp [hMissing v hv] at hNumber

end Layout
end NoteBoard
