import NoteBoard.Geometry.Rect

/-!
The grid of a board: columns of equal width with gaps between them inside padding, and rows of a
fixed height. Rectangles are turned from cells into whole pixels and back.
-/

namespace NoteBoard

/-- Whether rectangles count grid cells or pixels. -/
inductive Coordinates where
  | cells
  | pixels
deriving DecidableEq

def Coordinates.names : List (String × Coordinates) := [("grid", .cells), ("px", .pixels)]

def Coordinates.name : Coordinates → String
  | .cells => "grid"
  | .pixels => "px"

/-- The measured size of the container of a board, in pixels. -/
structure Container (K : Type) where
  width : K
  height : K
deriving DecidableEq

/-- The measures of a grid. -/
structure Grid (K : Type) where
  columns : Nat
  rowHeight : K
  gap : K
  padding : K

variable {K : Type} [Number K]

/-- Whether a container has a finite size that is not zero. -/
def Container.isValid (c : Container K) : Bool :=
  Number.isFinite c.width && Number.isFinite c.height && decide (0 < c.width) &&
    decide (0 < c.height)

/-- Travel of a pointer in whole cells. Where cells have no size, or the travel none that is
finite, there is no travel. -/
def wholeCells (travel cell gap : K) : K :=
  let pitch := cell + gap
  if !Number.isFinite pitch || decide (pitch ≤ 0) || !Number.isFinite travel then 0
  else Number.round (travel / pitch)

namespace Grid

/-- The width of a column, or `none` for a container without a size or too narrow for the
columns. -/
def columnWidth? (g : Grid K) (c : Container K) : Option K :=
  if !c.isValid || g.columns == 0 then none
  else
    let columns : K := Number.ofNat g.columns
    let width := (c.width - 2 * g.padding - (columns - 1) * g.gap) / columns
    if !Number.isFinite width || decide (width ≤ 0) then none else some width

/-- The extent of cells with the gaps between them. -/
def extent (g : Grid K) (cell count : K) : K :=
  Number.round (count * cell + Number.atLeast 0 (count - 1) * g.gap)

/-- A rectangle of cells in whole pixels. -/
def toPixels (g : Grid K) (columnWidth : K) (r : Rect K) : Rect K where
  x := Number.round (g.padding + r.x * (columnWidth + g.gap))
  y := Number.round (g.padding + r.y * (g.rowHeight + g.gap))
  w := g.extent columnWidth r.w
  h := g.extent g.rowHeight r.h

/-- A rectangle of pixels in whole cells, at least one wide and high, and within the columns.
`none` where the width is not a number, so that no column can be chosen. -/
def toCells? (g : Grid K) (columnWidth : K) (r : Rect K) : Option (Rect K) := do
  let columnPitch := columnWidth + g.gap
  let rowPitch := g.rowHeight + g.gap
  let columns : K := Number.ofNat (max g.columns 1)
  let w ← Number.clamp? 1 columns (Number.round ((r.w + g.gap) / columnPitch))
  let x ← Number.clamp? 0 (columns - w) (Number.round ((r.x - g.padding) / columnPitch))
  return ⟨x, Number.atLeast 0 (Number.round ((r.y - g.padding) / rowPitch)), w,
    Number.atLeast 1 (Number.round ((r.h + g.gap) / rowPitch))⟩

end Grid
end NoteBoard
