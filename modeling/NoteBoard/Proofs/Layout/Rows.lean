import Mathlib.Order.Bounds.Basic
import NoteBoard.Proofs.Layout.Queue

/-! Settling among rectangles that fill whole rows. A rectangle is pushed from edge to edge, and
still it comes to lie in the first row where it is free, since no push passes a row that is free. It
could as well be moved down row by row. -/
namespace NoteBoard
namespace Rect

section Free

/-- A rectangle that fills whole rows, of any width. -/
def InRows (r : Rect Exact) : Prop :=
  Number.isFinite r.x = true ∧ ∃ row height : Int, r.y = .whole row ∧ r.h = .whole height

/-- A push leaves a rectangle in whole rows. -/
theorem InRows.push {r other : Rect Exact} (hr : r.InRows) (hOther : other.InRows) :
    InRows { r with y := other.bottom } := by
  obtain ⟨hFinite, -, height, -, hHeight⟩ := hr
  obtain ⟨-, row, count, hRow, hCount⟩ := hOther
  exact ⟨hFinite, row + count, height, by rw [bottom, hRow, hCount, Exact.whole_add], hHeight⟩

/-- A rectangle with its upper edge at a row. -/
def atRow (r : Rect Exact) (row : Int) : Rect Exact := { r with y := .whole row }

/-- The rows from its own one on in which a rectangle is apart from those placed. -/
def freeRows (placed : List (Rect Exact)) (r : Rect Exact) : Set Int :=
  {row | r.y ≤ .whole row ∧ ∀ other ∈ placed, other.Apart (r.atRow row)}

variable {placed : List (Rect Exact)} (hPlaced : ∀ other ∈ placed, other.InRows) {r : Rect Exact}

include hPlaced

/-- A push to an edge passes no row that is free: the rectangle that ends at that edge is in the way
all along. -/
theorem freeRows_push {edge : Exact} (hr : r.InRows) (h : blockedUntil? placed r = some edge) :
    freeRows placed { r with y := edge } = freeRows placed r := by
  obtain ⟨other, hOther, ⟨hLeft, hRight, hAbove, hBelow⟩, rfl⟩ := exists_of_blocked h
  obtain ⟨-, start, height, hStart, hHeight⟩ := hr
  obtain ⟨-, top, count, hTop, hCount⟩ := hPlaced other hOther
  have hBottom : other.bottom = .whole (top + count) := by
    rw [bottom, hTop, hCount, Exact.whole_add]
  rw [hTop, bottom, hStart, hHeight, Exact.whole_add, Exact.whole_lt] at hAbove
  rw [hStart, hBottom, Exact.whole_lt] at hBelow
  ext row
  simp only [freeRows, Set.mem_ofPred_eq, hStart, hBottom, Exact.whole_le]
  refine ⟨fun ⟨hFrom, hApart⟩ => ⟨hBelow.le.trans hFrom, hApart⟩, fun ⟨hFrom, hApart⟩ => ?_⟩
  refine ⟨not_lt.1 fun hBefore => hApart other hOther ⟨hLeft, hRight, ?_, ?_⟩, hApart⟩
  · rw [hTop, bottom, atRow, hHeight, Exact.whole_add, Exact.whole_lt]
    omega
  · rwa [hBottom, atRow, Exact.whole_lt]

omit hPlaced in
/-- A rectangle that is free where it is cannot be higher up than that. -/
theorem exists_isLeast_of_apart (hr : r.InRows) (hApart : ∀ other ∈ placed, other.Apart r) :
    ∃ row, r = r.atRow row ∧ IsLeast (freeRows placed r) row := by
  obtain ⟨-, row, -, hRow, -⟩ := hr
  have hSame : r = r.atRow row := by rw [atRow, ← hRow]
  refine ⟨row, hSame, ⟨?_, hSame ▸ hApart⟩, fun other hOther => ?_⟩
  · rw [hRow, Exact.whole_le]
  · simpa [hRow, Exact.whole_le] using hOther.1

/-- With a try for each rectangle ahead, a rectangle comes to lie in the first free row. -/
theorem exists_isLeast_drop (tries : Nat) (hr : r.InRows) (hTries : ahead placed r ≤ tries) :
    ∃ row, drop placed tries r = r.atRow row ∧ IsLeast (freeRows placed r) row := by
  -- The free rows stay the same from push to push, and the last place is the first of them.
  induction tries generalizing r with
  | zero => exact exists_isLeast_of_apart hr (apart_drop 0 hTries)
  | succ tries ih =>
      rw [drop]
      split
      · next edge hBlocked =>
        obtain ⟨other, hOther, -, hEdge⟩ := exists_of_blocked hBlocked
        have hPushed : InRows { r with y := edge } := hEdge ▸ hr.push (hPlaced other hOther)
        have hLess := ahead_push hBlocked
        rw [← freeRows_push hPlaced hr hBlocked]
        exact ih hPushed (by omega)
      · next hFree => exact exists_isLeast_of_apart hr (blockedUntil?_eq_none_iff.1 hFree)

end Free

section Creep

variable {K : Type} [Number K]

/-- Moves a rectangle down by one row, again and again until it is free or the tries are used
up. -/
def creep (placed : List (Rect K)) : Nat → Rect K → Rect K
  | 0, r => r
  | tries + 1, r =>
    if ∀ other ∈ placed, ¬ other.Overlaps r then r
    else creep placed tries { r with y := r.y + 1 }

/-- Puts rectangles in place one after another, each by a move around those before it. -/
def arrange (move : List (Rect K) → Rect K → Rect K) (placed : List (Rect K)) :
    List (Rect K) → List (Rect K)
  | [] => []
  | r :: rest => move placed r :: arrange move (move placed r :: placed) rest

theorem arrange_drop (tries : Nat) (placed rects : List (Rect K)) :
    arrange (fun placed r => drop placed tries r) placed rects = drops tries placed rects := by
  induction rects generalizing placed with
  | nil => rfl
  | cons r rest ih => rw [arrange, drops, ih]

end Creep

/-- Moving down row by row ends in the first free row. -/
theorem creep_eq_atRow {placed : List (Rect Exact)} {r : Rect Exact} {start row : Int}
    (h : IsLeast (freeRows placed (r.atRow start)) row) {tries : Nat}
    (hTries : row ≤ start + tries) : creep placed tries (r.atRow start) = r.atRow row := by
  have hFrom : start ≤ row := Exact.whole_le.1 h.1.1
  induction tries generalizing start with
  | zero =>
      obtain rfl : row = start := by omega
      rfl
  | succ tries ih =>
      rw [creep]
      split
      · next hFree =>
        have hLeast : row ≤ start := h.2 ⟨Exact.whole_le.2 le_rfl, hFree⟩
        rw [le_antisymm hFrom hLeast]
      · next hTaken =>
        have hNe : row ≠ start := by
          rintro rfl
          exact hTaken h.1.2
        have hNext : { r.atRow start with y := (r.atRow start).y + 1 } = r.atRow (start + 1) := by
          simp only [atRow, Exact.one_eq_whole, Exact.whole_add]
        rw [hNext]
        refine ih ⟨⟨Exact.whole_le.2 (by omega), h.1.2⟩, fun other hOther => h.2 ⟨?_, hOther.2⟩⟩
          (by omega) (by omega)
        have hBeyond : start + 1 ≤ other := Exact.whole_le.1 hOther.1
        exact Exact.whole_le.2 (by omega)

/-- With enough tries, moving rectangles down row by row puts all of them where they are dropped. -/
theorem exists_arrange_creep {limit : Nat} {placed rects : List (Rect Exact)}
    (hPlaced : ∀ other ∈ placed, other.InRows) (hRects : ∀ r ∈ rects, r.InRows)
    (hLimit : placed.length + rects.length ≤ limit + 1) :
    ∃ rows, ∀ tries ≥ rows, arrange (fun placed r => creep placed tries r) placed rects =
      drops limit placed rects := by
  induction rects generalizing placed with
  | nil => exact ⟨0, fun _ _ => rfl⟩
  | cons r rest ih =>
      obtain ⟨hFirst, hRest⟩ := List.forall_mem_cons.1 hRects
      rw [List.length_cons] at hLimit
      have hAhead : ahead placed r ≤ limit := (ahead_le_length placed r).trans (by omega)
      obtain ⟨row, hDrop, hLeast⟩ := exists_isLeast_drop hPlaced limit hFirst hAhead
      have hDropped : InRows (drop placed limit r) :=
        drop_invariant (fun s hs other hOther => hs.push (hPlaced other hOther)) limit hFirst
      obtain ⟨rows, hRows⟩ := ih (List.forall_mem_cons.2 ⟨hDropped, hPlaced⟩) hRest
        (by rw [List.length_cons]; omega)
      obtain ⟨-, start, -, hStart, -⟩ := hFirst
      have hSame : r = r.atRow start := by rw [atRow, ← hStart]
      refine ⟨max rows (row - start).toNat, fun tries hTries => ?_⟩
      have hCreep : creep placed tries r = drop placed limit r := by
        rw [hDrop, hSame]
        exact creep_eq_atRow (hSame ▸ hLeast) (by omega)
      rw [arrange, drops, hCreep, hRows tries (by omega)]

end Rect

namespace Layout

section Move

variable {K : Type} [Number K]

/-- The layout with its widgets put in place by a move, in the order in which settling places them.
The first widget with the pinned id stays where it is. -/
def settleBy (move : List (Rect K) → Rect K → Rect K) (l : Layout K) (pinned : Option String) :
    Layout K :=
  let index := l.pinnedIndex pinned
  let queue := l.queue index
  let rects := Rect.arrange move (l.fixedRects index) (queue.map (·.1.rect))
  { l with widgets := l.widgets.mapIdx fun i w =>
      match ((queue.map Prod.snd).zip rects).lookup i with
      | some r => w.withRect r
      | none => w }

theorem settle_eq_settleBy (l : Layout K) (pinned : Option String) (limit : Nat) :
    l.settle pinned limit = l.settleBy (fun placed r => Rect.drop placed limit r) pinned := by
  have hSettled := l.settledRects_eq (l.pinnedIndex pinned) limit
  rw [droppedRects, ← Rect.arrange_drop] at hSettled
  simp only [settleBy, ← hSettled]
  rfl

/-- The layout with its widgets moved down row by row until none overlaps another. -/
def settleByRows (l : Layout K) (pinned : Option String) (tries : Nat) : Layout K :=
  l.settleBy (fun placed r => Rect.creep placed tries r) pinned

end Move

/-- The order of places: by rows, in a row by columns, and in one place that of the list. -/
def ComesBefore (a b : Widget Exact × Nat) : Prop :=
  a.1.y < b.1.y ∨ a.1.y = b.1.y ∧ (a.1.x < b.1.x ∨ a.1.x = b.1.x ∧ a.2 < b.2)

theorem precedes_iff {a b : Widget Exact × Nat} (ha : a.1.rect.InRows) (hb : b.1.rect.InRows) :
    Precedes a b ↔ ComesBefore a b := by
  obtain ⟨hFinite, row, -, hy, -⟩ := ha
  obtain ⟨hFinite', row', -, hy', -⟩ := hb
  obtain ⟨x, hx⟩ := Exact.exists_finite_of_isFinite hFinite
  obtain ⟨x', hx'⟩ := Exact.exists_finite_of_isFinite hFinite'
  have hOrder (p q : Rat) : Number.totalOrder (Exact.finite p) (.finite q) = compare p q :=
    Exact.totalOrder_finite p q
  rw [Precedes, ComesBefore, Rect.placedBefore_iff, Rect.placedBefore_iff]
  simp only [Widget.rect] at hx hx' hy hy' ⊢
  simp only [hx, hx', hy, hy', Exact.whole_def, hOrder, Exact.finite_lt, Exact.finite.injEq,
    compare_lt_iff_lt, compare_eq_iff_eq, Ordering.isLE_iff_ne_gt, compare_gt_iff_gt]
  grind

section Rows

variable {l : Layout Exact} (hRows : ∀ w ∈ l.widgets, w.rect.InRows)

include hRows

theorem exists_settleByRows (pinned : Option String) {limit : Nat}
    (hLimit : l.widgets.length - 1 ≤ limit) :
    ∃ rows, ∀ tries ≥ rows, l.settleByRows pinned tries = l.settle pinned limit := by
  have hLength := l.length_fixed_add_queue pinned
  have hEnough : (l.fixedRects (l.pinnedIndex pinned)).length +
      ((l.queue (l.pinnedIndex pinned)).map (·.1.rect)).length ≤ limit + 1 := by
    rw [List.length_map]
    omega
  obtain ⟨rows, hSame⟩ := Rect.exists_arrange_creep
    (forall_mem_fixedRects hRows (l.pinnedIndex pinned))
    (forall_mem_queue hRows (l.pinnedIndex pinned)) hEnough
  refine ⟨rows, fun tries hTries => ?_⟩
  simp only [settle_eq_settleBy, settleByRows, settleBy, hSame tries hTries, Rect.arrange_drop]

/-- Among rectangles in whole rows, every widget that is not pinned comes to lie in the first row
from its own one on where it is apart from those placed before it: the pinned one and those whose
places come before its own. Moving widgets down row by row ends in the same layout. -/
theorem settle_first_rows (pinned : Option String) {limit : Nat}
    (hLimit : l.widgets.length - 1 ≤ limit) :
    (∀ j w, l.widgets[j]? = some w → l.pinnedIndex pinned ≠ some j →
      ∃ row : Int, (l.settle pinned limit).widgets[j]? = some { w with y := .whole row } ∧
        IsLeast {row : Int | w.y ≤ .whole row ∧ ∀ i u v, l.widgets[i]? = some u →
          (l.pinnedIndex pinned = some i ∨ ComesBefore (u, i) (w, j)) →
          (l.settle pinned limit).widgets[i]? = some v →
          v.rect.Apart (w.rect.atRow row)} row) ∧
      ∃ rows, ∀ tries ≥ rows, l.settleByRows pinned tries = l.settle pinned limit := by
  refine ⟨fun j w hw hFree => ?_, exists_settleByRows hRows pinned hLimit⟩
  obtain ⟨placed, hLength, hSettled, hPlaced⟩ := exists_placed limit hw hFree
  have hIn : w.rect.InRows := hRows w (List.mem_of_getElem? hw)
  have hPlacedIn : ∀ r ∈ placed, r.InRows := by
    intro r hr
    obtain ⟨i, u, v, -, -, hv, rfl⟩ := (hPlaced r).1 hr
    exact settle_invariant hRows (fun _ _ hr hOther => hr.push hOther) pinned limit v
      (List.mem_of_getElem? hv)
  have hAhead := (Rect.ahead_le_length placed w.rect).trans (show placed.length ≤ limit by omega)
  obtain ⟨row, hDrop, hLeast⟩ := Rect.exists_isLeast_drop hPlacedIn limit hIn hAhead
  refine ⟨row, hSettled.trans (by rw [hDrop]; rfl), ?_⟩
  -- The rectangles in the way are those of the widgets that come before.
  have hOrder {i : Nat} {u : Widget Exact} (hu : l.widgets[i]? = some u) :
      Precedes (u, i) (w, j) ↔ ComesBefore (u, i) (w, j) :=
    precedes_iff (hRows u (List.mem_of_getElem? hu)) hIn
  convert hLeast using 1
  ext row
  refine and_congr_right fun _ => ⟨fun hApart r hr => ?_, fun hApart i u v hu hFirst hv => ?_⟩
  · obtain ⟨i, u, v, hu, hFirst, hv, rfl⟩ := (hPlaced r).1 hr
    exact hApart i u v hu (hFirst.imp_right (hOrder hu).1) hv
  · exact hApart v.rect ((hPlaced _).2 ⟨i, u, v, hu, hFirst.imp_right (hOrder hu).2, hv, rfl⟩)

end Rows

/-- A widget that is pinned further down, and two above it that overlap. -/
def overPinned : Layout Exact where
  columns := 4
  rowHeight := 80
  gap := 16
  unit := .cells
  widgets := [.of "a" (.new .stats) ⟨0, 0, 1, 2⟩, .of "b" (.new .stats) ⟨0, 1, 1, 2⟩,
    .of "c" (.new .stats) ⟨0, 4, 1, 2⟩]

/-- The widget between the two others comes to lie in the first row that is free. -/
theorem overPinned_first_rows :
    (∀ w ∈ overPinned.widgets, w.rect.InRows) ∧ overPinned.widgets.length - 1 ≤ 2 ∧
      (∀ w, overPinned.widgets[1]? = some w → ∃ row : Int,
        (overPinned.settle (some "c") 2).widgets[1]? = some { w with y := .whole row }) ∧
      ∃ rows, ∀ tries ≥ rows,
        overPinned.settleByRows (some "c") tries = overPinned.settle (some "c") 2 := by
  have hIn (row : Nat) : Rect.InRows ⟨0, Number.ofNat row, 1, 2⟩ :=
    ⟨rfl, row, 2, Exact.ofNat_eq_whole row, Exact.ofNat_eq_whole 2⟩
  have hRows : ∀ w ∈ overPinned.widgets, w.rect.InRows :=
    List.forall_mem_cons.2 ⟨hIn 0, List.forall_mem_cons.2 ⟨hIn 1,
      List.forall_mem_singleton.2 (hIn 4)⟩⟩
  obtain ⟨hFirst, hSame⟩ := settle_first_rows hRows (some "c") (show _ ≤ 2 by decide)
  refine ⟨hRows, by decide, fun w hw => ?_, hSame⟩
  obtain ⟨row, hRow, -⟩ := hFirst 1 w hw (by decide)
  exact ⟨row, hRow⟩

/-- There is room for it above the pinned one, and a push does not miss it. -/
example : (overPinned.settle (some "c") 2).widgets.map Widget.y = [0, 2, 4] ∧
    (overPinned.settleByRows (some "c") 2).widgets.map Widget.y = [0, 2, 4] := by
  decide +kernel

end Layout
end NoteBoard
