import NoteBoard.Number.Binary64
import NoteBoard.Proofs.Json.Held
import NoteBoard.Proofs.Layout.Document

/-!
Documents of layouts with numbers that are not finite. Null is written for these. The reader takes
it for a measure, but not for the target of a status bar, and leaves that widget out.
-/
namespace NoteBoard

open Json

section Held

variable {K : Type} [Numeral K] {sorted : Bool} {shown : List (String × Json K)}

theorem lenient_held_real (x : K) (sorted : Bool) :
    ((held (.real x)).form sorted).lenient = Number.finiteElse (0 / 0) x := by
  cases hFinite : Number.isFinite x <;> simp [held, hFinite, lenient, Number.finiteElse]

theorem ProgressSettings.heldMembers_membersWith (c : ProgressSettings K) (target : Json K) :
    heldMembers (c.membersWith target) = c.membersWith target.held := by
  have hFilters := (storable_filters (K := K) c.filters 0).held_eq
  have hTimeframe := (c.timeframe.storable (K := K) 0).held_eq
  have hFreeText := IsStorable.heldMembers_eq (c.freeText.storable_members (K := K) 0)
  simp [membersWith, heldMembers, held, hFilters, hTimeframe, hFreeText]

namespace WidgetSettings

/-- All numbers in the settings are finite. -/
def isFinite (s : WidgetSettings K) : Bool :=
  s.numbers.all Number.isFinite

variable {s : WidgetSettings K}

/-- Only a status bar has a number. -/
theorem exists_target (h : s.isFinite = false) : ∃ c, s = .statusBar c ∧
    heldMembers s.members = ("type", .text s.type.name) :: c.membersWith .null := by
  cases s with
  | statusBar c =>
      have hTarget : Number.isFinite c.target = false := by simpa [isFinite, numbers] using h
      have hNull : held (.real c.target) = .null := by simp [held, hTarget]
      have hOthers : heldMembers c.members = c.membersWith .null :=
        hNull ▸ c.heldMembers_membersWith (.real c.target)
      exact ⟨c, rfl, congrArg (List.cons _) hOthers⟩
  | _ => cases h

variable (hLimit : LimitFits s.limit)
  (hNumbers : ∀ x ∈ s.numbers, Number.isFinite x = true → ReadsBack x)

include hLimit hNumbers

theorem storable_of_isFinite (h : s.isFinite = true) (depth : Nat) :
    ∀ m ∈ s.members, IsStorable (depth + 5) m.2 :=
  storable_members hLimit (fun x hx => hNumbers x hx (List.all_eq_true.1 h x hx)) depth

theorem storable_heldMembers (depth : Nat) :
    ∀ m ∈ heldMembers s.members, IsStorable (depth + 5) m.2 := by
  cases hFinite : s.isFinite with
  | false =>
      obtain ⟨c, rfl, hHeld⟩ := exists_target hFinite
      rw [hHeld]
      exact List.forall_mem_cons.2 ⟨.text _, c.storable_membersWith .null⟩
  | true =>
      have hStorable := storable_of_isFinite hLimit hNumbers hFinite depth
      rwa [IsStorable.heldMembers_eq hStorable]

theorem ofMembers?_held (h : Presents sorted (heldMembers s.members) shown) :
    ofMembers? shown = if s.isFinite then some s.reread else none := by
  cases hFinite : s.isFinite with
  | false =>
      obtain ⟨c, rfl, hHeld⟩ := exists_target hFinite
      rw [hHeld] at h
      obtain ⟨rest, hTag, hRest⟩ := h.tagged (WidgetType.restores _)
      simp [ofMembers?, hTag, type, ProgressSettings.ofMembers?_shown hRest, number?]
  | true =>
      have hStorable := storable_of_isFinite hLimit hNumbers hFinite 0
      rw [IsStorable.heldMembers_eq hStorable] at h
      exact ofMembers?_shown hLimit h

end WidgetSettings

namespace Widget

variable {w : Widget K} (hLimit : LimitFits w.settings.limit) (hRect : w.rect.isFinite = true)
  (hNumbers : ∀ x ∈ w.numbers, Number.isFinite x = true → ReadsBack x)

include hRect hNumbers

theorem readsBack_place : ∀ x ∈ [w.x, w.y, w.w, w.h], ReadsBack x := by
  have hFinite : ∀ x ∈ [w.x, w.y, w.w, w.h], Number.isFinite x = true := by
    simpa [Rect.isFinite, Widget.rect, and_assoc] using hRect
  exact fun x hx => hNumbers x (List.mem_append_left _ hx) (hFinite x hx)

theorem held_toJson :
    w.toJson.held = .object (w.ownMembers ++ heldMembers w.settings.members) := by
  have hOwn := storable_ownMembers (readsBack_place hRect hNumbers) 0
  show held (.object (w.ownMembers ++ w.settings.members)) = _
  rw [held_object, heldMembers_append, IsStorable.heldMembers_eq hOwn]

include hLimit

theorem storable_held (depth : Nat) : IsStorable (depth + 6) w.toJson.held := by
  rw [held_toJson hRect hNumbers]
  exact storable_object (names_heldMembers _) (readsBack_place hRect hNumbers)
    (WidgetSettings.storable_heldMembers hLimit
      (fun x hx => hNumbers x (List.mem_append_right _ hx)) depth)

theorem ofJson?_held (sorted : Bool) :
    ofJson? (w.toJson.held.form sorted) = if w.settings.isFinite then some w.reread else none := by
  have hStorable := storable_held hLimit hRect hNumbers 0
  rw [held_toJson hRect hNumbers] at hStorable ⊢
  obtain ⟨shown, hForm, hShown⟩ := hStorable.exists_shown sorted
  obtain ⟨rest, hRest, hRead⟩ := ofJson?_shown (names_heldMembers _) hShown
  rw [hForm, hRead, WidgetSettings.ofMembers?_held hLimit
    (fun x hx => hNumbers x (List.mem_append_right _ hx)) hRest]
  split <;> rfl

end Widget

namespace Layout

variable {l : Layout K} (hColumns : l.columns < twoTo 32)
  (hLimits : ∀ w ∈ l.widgets, LimitFits w.settings.limit)
  (hRects : ∀ w ∈ l.widgets, w.rect.isFinite = true)
  (hNumbers : ∀ x ∈ l.numbers, Number.isFinite x = true → ReadsBack x)

theorem held_toJson (l : Layout K) :
    l.toJson.held = .object (l.membersWith (held (.real l.rowHeight)) (held (.real l.gap))
      (l.widgets.map fun w => w.toJson.held)) := by
  have hWidgets : heldItems (l.widgets.map Widget.toJson) =
      l.widgets.map fun w => w.toJson.held := by
    rw [heldItems_eq_map, List.map_map]
    rfl
  simp [toJson, membersWith, held_object, heldMembers, held, hWidgets]

include hColumns hLimits hRects hNumbers

theorem storable_held : IsStorable 8 l.toJson.held := by
  rw [held_toJson]
  exact storable_membersWith hColumns
    (storable_held_real (hNumbers _ (by simp [numbers])) _)
    (storable_held_real (hNumbers _ (by simp [numbers])) _)
    (List.forall_mem_map.2 fun w hw =>
      Widget.storable_held (hLimits w hw) (hRects w hw) (numbers_of_mem hNumbers w hw) 0)

/-- What the forgiving reader makes of the document of any layout. -/
theorem ofText_contract : ofText l.contract.pretty = .ok
    { columns := wholePart (Number.ofInt l.columns : K)
      rowHeight := Number.finiteElse (0 / 0) l.rowHeight
      gap := Number.finiteElse (0 / 0) l.gap
      unit := l.unit
      widgets := (l.widgets.filter fun w => w.settings.isFinite).map Widget.reread } := by
  have hStorable := storable_held hColumns hLimits hRects hNumbers
  have hText : ofText l.contract.pretty = ofLenientObject (l.toJson.held.form true) := by
    rw [← pretty_held, contract, held_object]
    exact ofText_wrapped hStorable (by decide)
  have hWidgets : ((l.widgets.map fun w => w.toJson.held).map (form true)).filterMap
      Widget.ofJson? = (l.widgets.filter fun w => w.settings.isFinite).map Widget.reread := by
    rw [List.map_map, List.filterMap_map, ← List.filterMap_eq_map, List.filterMap_filter]
    exact List.filterMap_congr fun w hw =>
      Widget.ofJson?_held (hLimits w hw) (hRects w hw) (numbers_of_mem hNumbers w hw) true
  rw [held_toJson] at hStorable hText
  obtain ⟨shown, hForm, hShown⟩ := hStorable.exists_shown true
  rw [hText, hForm, ofLenientObject_shown hShown, hWidgets, lenient_held_real, lenient_held_real]

/-- The forgiving reader takes the document of any layout, but leaves out every widget with a
number in its settings that is not finite. The other widgets keep their ids, types and places. -/
theorem document_widgets : ∃ r : Layout K, ofText l.contract.pretty = .ok r ∧
    r.widgets.map (fun w => (w.id, w.type, w.rect)) =
      (l.widgets.filter fun w => w.settings.isFinite).map fun w => (w.id, w.type, w.rect) := by
  refine ⟨_, ofText_contract hColumns hLimits hRects hNumbers, ?_⟩
  rw [List.map_map]
  refine List.map_congr_left fun w _ => ?_
  rw [Function.comp, Widget.type_reread]
  rfl

end Layout

end Held

/-- A progress bar. -/
def bar (id : String) (target : Float) : Widget Float :=
  .of id (.statusBar { (ProgressSettings.new : ProgressSettings Float) with target := target })
    ⟨0, 0, 4, 1⟩

/-- A chart by a field that has the name of another grouping. -/
def tagFieldChart : Widget Float :=
  .of "c" (.pieChart { ChartSettings.new .group with grouping := .field "tag" }) ⟨0, 1, 4, 4⟩

/-- Two bars, one without a target, and a chart, on rows of no finite height. -/
def untargeted : Layout Float :=
  ⟨12, 1 / 0, 16, .cells, [bar "a" (0 / 0), bar "b" 80, tagFieldChart]⟩

theorem Layout.untargeted_widgets : untargeted.columns < twoTo 32 ∧
    (∀ w ∈ untargeted.widgets, LimitFits w.settings.limit ∧ w.rect.isFinite = true) ∧
    (∀ x ∈ untargeted.numbers, Number.isFinite x = true → ReadsBack x) ∧
    ∃ r : Layout Float, ofText untargeted.contract.pretty = .ok r ∧
      r.widgets.map (fun w => (w.id, w.type, w.rect)) =
        [("b", .statusBar, ⟨0, 0, 4, 1⟩), ("c", .pieChart, ⟨0, 1, 4, 4⟩)] := by
  have hColumns : untargeted.columns < twoTo 32 := by decide
  have hLimits : ∀ w ∈ untargeted.widgets, LimitFits w.settings.limit := by
    simp [untargeted, bar, tagFieldChart, Widget.of, WidgetSettings.limit, LimitFits,
      ChartSettings.new]
  have hRects : ∀ w ∈ untargeted.widgets, w.rect.isFinite = true := by decide +kernel
  have hNumbers : ∀ x ∈ untargeted.numbers, Number.isFinite x = true → ReadsBack x := by
    decide +kernel
  have hKept : (untargeted.widgets.filter fun w => w.settings.isFinite) =
      [bar "b" 80, tagFieldChart] := by decide +kernel
  obtain ⟨r, hRead, hWidgets⟩ := document_widgets hColumns hLimits hRects hNumbers
  rw [hKept] at hWidgets
  exact ⟨hColumns, fun w hw => ⟨hLimits w hw, hRects w hw⟩, hNumbers, r, hRead, hWidgets⟩

end NoteBoard
