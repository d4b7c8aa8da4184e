import NoteBoard.Error
import NoteBoard.Layout.Basic

/-!
Layouts in cells turned into pixels for a container, and back.
-/

namespace NoteBoard
namespace Layout

variable {K : Type} [Number K]

/-- The width of a column in a container. -/
def columnWidth (l : Layout K) (padding : K) (c : Container K) : Except (Error K) K :=
  match (l.grid padding).columnWidth? c with
  | some width => .ok width
  | none => .error (.container c.width c.height)

/-- The layout in pixels. One that is in pixels already stays as it is, whatever the container. -/
def toPixels (l : Layout K) (padding : K) (c : Container K) : Except (Error K) (Layout K) :=
  match l.unit with
  | .pixels => .ok l
  | .cells => do
    let width ← l.columnWidth padding c
    let widgets := l.widgets.map fun w => w.withRect ((l.grid padding).toPixels width w.rect)
    return { l with unit := .pixels, widgets := widgets }

/-- The layout in cells. One that is in cells already stays as it is. -/
def toCells (l : Layout K) (padding : K) (c : Container K) : Except (Error K) (Layout K) :=
  match l.unit with
  | .cells => .ok l
  | .pixels => do
    let width ← l.columnWidth padding c
    match l.widgets.mapM fun w => ((l.grid padding).toCells? width w.rect).map w.withRect with
    | some widgets => return { l with unit := .cells, widgets := widgets }
    | none => throw .emptyInterval

end Layout
end NoteBoard
