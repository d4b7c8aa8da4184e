import NoteBoard.Geometry.Gesture
import NoteBoard.Proofs.Number.Machine

/-! Gestures with a pointer anywhere, in machine numbers too. Over cells, travel that is not finite
is no travel. Over pixels it is added to the place or the size as it is, and the bounds do not bring
back all that comes of that. -/
namespace NoteBoard
namespace Gesture

variable {K : Type} [Number K]

/-- How far the pointer is from where the gesture began. -/
def travel (g : Gesture K) (p : Point K) : Point K :=
  ⟨p.x - g.pointer.x, p.y - g.pointer.y⟩

/-- What is asked for by travel from a place or a size on. -/
def asked (unit : Coordinates) (start travel cell gap : K) : K :=
  match unit with
  | .cells => start + wholeCells travel cell gap
  | .pixels => Number.round (start + travel)

/-- The place or the size that a gesture changes, as it was. -/
def start (g : Gesture K) : Point K :=
  match g.kind with
  | .drag => ⟨g.rect.x, g.rect.y⟩
  | .resize => ⟨g.rect.w, g.rect.h⟩

/-- The column or width that a gesture asks for. -/
def sideways (g : Gesture K) (s : Surface K) (p : Point K) : K :=
  asked s.unit g.start.x (g.travel p).x s.columnWidth s.gap

/-- The row or height that a gesture asks for. -/
def downwards (g : Gesture K) (s : Surface K) (p : Point K) : K :=
  asked s.unit g.start.y (g.travel p).y s.rowHeight s.gap

/-- The lower bound of what is asked for. -/
def least (g : Gesture K) (s : Surface K) : K :=
  match g.kind, s.unit with
  | .drag, _ => 0
  | .resize, .cells => 1
  | .resize, .pixels => Number.atLeast 1 s.leastPixels

/-- The upper bound of what is asked for sideways. -/
def most (g : Gesture K) (s : Surface K) : K :=
  let width : K := match s.unit with
    | .cells => Number.ofNat s.columns
    | .pixels => s.container.width
  Number.atLeast (g.least s) (match g.kind with
    | .drag => width - g.rect.w
    | .resize => width - g.rect.x)

/-- The rectangle with what the gesture changes in it. -/
def changed (g : Gesture K) (a b : K) : Rect K :=
  match g.kind with
  | .drag => g.rect.placed a b
  | .resize => g.rect.sized a b

/-- All gestures change a rectangle by the same rule. -/
theorem rectAt?_eq (g : Gesture K) (s : Surface K) (p : Point K) :
    g.rectAt? s p = (Number.clamp? (g.least s) (g.most s) (g.sideways s p)).map fun a =>
      g.changed a (Number.atLeast (g.least s) (g.downwards s p)) := by
  obtain ⟨widget, kind, pointer, rect⟩ := g
  obtain ⟨unit, columns, columnWidth, rowHeight, gap, container, leastPixels⟩ := s
  cases kind <;> cases unit <;> exact Option.map_eq_bind.symm

section Asked

variable [hK : Number.Extended K]

theorem isNaN_wholeCells (travel cell gap : K) :
    Number.isNaN (wholeCells travel cell gap) = false := by
  unfold wholeCells
  dsimp only
  split
  · exact hK.isNaN_of_isFinite hK.isFinite_zero
  · next h =>
    simp only [Bool.or_eq_true, Bool.not_eq_true', decide_eq_true_eq, not_or,
      Bool.not_eq_false] at h
    obtain ⟨⟨hPitch, hPositive⟩, hTravel⟩ := h
    rw [hK.isNaN_round, hK.isNaN_div hTravel hPitch hPositive]

variable {start : K} (hStart : Number.isFinite start = true) (travel cell gap : K)

include hStart

/-- Over cells a number is asked for, and a finite one where the travel is not finite. -/
theorem asked_cells : Number.isNaN (asked .cells start travel cell gap) = false ∧
    (Number.isFinite travel = false →
      Number.isFinite (asked .cells start travel cell gap) = true) := by
  refine ⟨(hK.isNaN_add _ hStart).trans (isNaN_wholeCells travel cell gap), fun hTravel => ?_⟩
  have hNone : wholeCells travel cell gap = 0 := by simp [wholeCells, hTravel]
  rw [asked, hNone]
  exact hK.isFinite_add_zero hStart

/-- Over pixels travel that is not a number, or is too large, is asked for. -/
theorem asked_pixels : Number.isNaN (asked .pixels start travel cell gap) = Number.isNaN travel ∧
    (Number.IsOver travel → Number.IsOver (asked .pixels start travel cell gap)) := by
  refine ⟨(hK.isNaN_round _).trans (hK.isNaN_add _ hStart), fun hTravel => ?_⟩
  have hSum := hK.isOver_add hStart hTravel
  rwa [asked, hK.round_eq_self hSum.1]

end Asked

section Finite

variable {g : Gesture K} (hRect : g.rect.isFinite = true)

include hRect

theorem isFinite_start :
    Number.isFinite g.start.x = true ∧ Number.isFinite g.start.y = true := by
  simp only [Rect.isFinite, Bool.and_eq_true] at hRect
  obtain ⟨⟨⟨hx, hy⟩, hw⟩, hh⟩ := hRect
  unfold start
  split
  · exact ⟨hx, hy⟩
  · exact ⟨hw, hh⟩

theorem isFinite_changed_iff {a b : K} : (g.changed a b).isFinite = true ↔
    Number.isFinite a = true ∧ Number.isFinite b = true := by
  simp only [Rect.isFinite, Bool.and_eq_true] at hRect
  obtain ⟨⟨⟨hx, hy⟩, hw⟩, hh⟩ := hRect
  unfold changed
  split <;> simp [Rect.placed, Rect.sized, Rect.isFinite, hx, hy, hw, hh]

end Finite

theorem isFinite_least [hK : Number.Extended K] (g : Gesture K) {s : Surface K}
    (hLeast : Number.isFinite s.leastPixels = true) : Number.isFinite (g.least s) = true := by
  unfold least
  split
  · exact hK.isFinite_zero
  · exact hK.isFinite_one
  · rw [Number.isFinite_atLeast_iff hK.isFinite_one]
    exact Number.not_isOver_of_isFinite hLeast

/-- A gesture on a finite rectangle has a rectangle wherever the pointer is. It is finite exactly if
what is asked for sideways is a number, with a finite upper bound where that applies, and what is
asked for downwards, which has none, is not beyond all finite numbers. Over cells the first always
holds, and travel that is not finite asks for nothing else; over pixels such travel is passed on. -/
theorem exists_rect_isFinite_iff [hK : Number.Extended K] {g : Gesture K}
    (hRect : g.rect.isFinite = true) {s : Surface K}
    (hLeast : Number.isFinite s.leastPixels = true) (p : Point K) :
    ∃ r, g.rectAt? s p = some r ∧
      (r.isFinite = true ↔ Number.isNaN (g.sideways s p) = false ∧
        (Number.IsOver (g.sideways s p) → Number.isFinite (g.most s) = true) ∧
        ¬ Number.IsOver (g.downwards s p)) ∧
      (s.unit = .cells → Number.isNaN (g.sideways s p) = false ∧
        (Number.isFinite (g.travel p).x = false → Number.isFinite (g.sideways s p) = true) ∧
        (Number.isFinite (g.travel p).y = false → Number.isFinite (g.downwards s p) = true)) ∧
      (s.unit = .pixels → Number.isNaN (g.sideways s p) = Number.isNaN (g.travel p).x ∧
        (Number.IsOver (g.travel p).y → Number.IsOver (g.downwards s p))) := by
  have hBound := g.isFinite_least hLeast
  obtain ⟨hSide, hDown⟩ := isFinite_start hRect
  have hClamp : Number.clamp? (g.least s) (g.most s) (g.sideways s p) =
      some (Number.clamp (g.least s) (g.most s) (g.sideways s p)) :=
    Number.clamp?_atLeast hBound _ _
  refine ⟨_, by rw [rectAt?_eq, hClamp, Option.map_some], ?_, fun hCells => ?_, fun hPixels => ?_⟩
  · rw [isFinite_changed_iff hRect, Number.isFinite_atLeast_iff hBound, most,
      Number.isFinite_clamp_iff hBound, and_assoc]
  · obtain ⟨hNaN, hAcross⟩ := asked_cells hSide (g.travel p).x s.columnWidth s.gap
    obtain ⟨-, hAlong⟩ := asked_cells hDown (g.travel p).y s.rowHeight s.gap
    rw [sideways, downwards, hCells]
    exact ⟨hNaN, hAcross, hAlong⟩
  · obtain ⟨hNaN, -⟩ := asked_pixels hSide (g.travel p).x s.columnWidth s.gap
    obtain ⟨-, hOver⟩ := asked_pixels hDown (g.travel p).y s.rowHeight s.gap
    rw [sideways, downwards, hPixels]
    exact ⟨hNaN, hOver⟩

/-- A widget on a canvas of pixels that is dragged with a pointer at no place sideways. -/
theorem dragged_not_finite :
    let g : Gesture Float := ⟨"a", .drag, ⟨0, 0⟩, ⟨100, 100, 200, 150⟩⟩
    let s : Surface Float := ⟨.pixels, 12, 60, 80, 16, ⟨1100, 800⟩, 120⟩
    g.rect.isFinite = true ∧ Number.isFinite s.leastPixels = true ∧
      ∃ r, g.rectAt? s ⟨0 / 0, 0⟩ = some r ∧ r.isFinite = false := by
  intro g s
  have hRect : g.rect.isFinite = true := by decide +kernel
  have hLeast : Number.isFinite s.leastPixels = true := by decide +kernel
  obtain ⟨r, hr, hFinite, -, hPixels⟩ := exists_rect_isFinite_iff hRect hLeast ⟨0 / 0, 0⟩
  have hNaN : Number.isNaN (g.sideways s ⟨0 / 0, 0⟩) = true :=
    (hPixels rfl).1.trans (by decide +kernel)
  refine ⟨hRect, hLeast, r, hr, ?_⟩
  rw [← Bool.not_eq_true, hFinite, hNaN]
  rintro ⟨hNumber, -⟩
  cases hNumber

end Gesture
end NoteBoard
