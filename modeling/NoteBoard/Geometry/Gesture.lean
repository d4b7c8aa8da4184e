import NoteBoard.Geometry.Grid

/-!
Gestures: a widget that is dragged or resized with a pointer. The travel of the pointer since the
gesture began gives the new rectangle.
-/

namespace NoteBoard

inductive GestureKind where
  | drag
  | resize
deriving DecidableEq

/-- What a board is busy with. -/
inductive Mode where
  | idle
  | dragging
  | resizing
deriving DecidableEq

/-- A gesture in progress: the widget, and where pointer and widget were when it began. -/
structure Gesture (K : Type) where
  widget : String
  kind : GestureKind
  pointer : Point K
  rect : Rect K
deriving DecidableEq

/-- The measures that turn travel of a pointer into rectangles. -/
structure Surface (K : Type) where
  unit : Coordinates
  columns : Nat
  columnWidth : K
  rowHeight : K
  gap : K
  container : Container K
  /-- The least width and height of a widget in pixels. -/
  leastPixels : K
deriving DecidableEq

namespace Gesture

variable {K : Type}

/-- What a board is busy with during a gesture, or without one. -/
def mode (g : Option (Gesture K)) : Mode :=
  match g.map Gesture.kind with
  | none => .idle
  | some .drag => .dragging
  | some .resize => .resizing

/-- Puts a gesture in place of the one in progress, which is handed back beside it. -/
def takeOver (active : Option (Gesture K)) (g : Gesture K) :
    Option (Gesture K) × Option (Gesture K) :=
  (active, some g)

/-- Ends the gesture in progress and hands it back, beside what is in progress then. -/
def finish (active : Option (Gesture K)) : Option (Gesture K) × Option (Gesture K) :=
  (active, none)

variable [Number K]

/-- A drag over cells: by whole cells, and within the columns. -/
def dragCells? (s : Surface K) (r : Rect K) (dx dy : K) : Option (Rect K) := do
  let free := Number.atLeast 0 (Number.ofNat s.columns - r.w)
  let x ← Number.clamp? 0 free (r.x + wholeCells dx s.columnWidth s.gap)
  return r.placed x (Number.atLeast 0 (r.y + wholeCells dy s.rowHeight s.gap))

/-- A drag over pixels: to whole pixels, and within the container's width. -/
def dragPixels? (s : Surface K) (r : Rect K) (dx dy : K) : Option (Rect K) := do
  let free := Number.atLeast 0 (s.container.width - r.w)
  let x ← Number.clamp? 0 free (Number.round (r.x + dx))
  return r.placed x (Number.atLeast 0 (Number.round (r.y + dy)))

/-- A resize over cells: by whole cells, at least one, and within the columns. -/
def resizeCells? (s : Surface K) (r : Rect K) (dx dy : K) : Option (Rect K) := do
  let most := Number.atLeast 1 (Number.ofNat s.columns - r.x)
  let w ← Number.clamp? 1 most (r.w + wholeCells dx s.columnWidth s.gap)
  return r.sized w (Number.atLeast 1 (r.h + wholeCells dy s.rowHeight s.gap))

/-- A resize over pixels: to whole pixels, at least the least size, and within the container's
width as far as that leaves room. -/
def resizePixels? (s : Surface K) (r : Rect K) (dx dy : K) : Option (Rect K) := do
  let least := Number.atLeast 1 s.leastPixels
  let most := Number.atLeast least (s.container.width - r.x)
  let w ← Number.clamp? least most (Number.round (r.w + dx))
  return r.sized w (Number.atLeast least (Number.round (r.h + dy)))

/-- The rectangle of the widget with the pointer at a point. -/
def rectAt? (g : Gesture K) (s : Surface K) (p : Point K) : Option (Rect K) :=
  let dx := p.x - g.pointer.x
  let dy := p.y - g.pointer.y
  match g.kind, s.unit with
  | .drag, .cells => dragCells? s g.rect dx dy
  | .drag, .pixels => dragPixels? s g.rect dx dy
  | .resize, .cells => resizeCells? s g.rect dx dy
  | .resize, .pixels => resizePixels? s g.rect dx dy

end Gesture
end NoteBoard
