import NoteBoard.Error
import NoteBoard.Layout.Settle

/-!
Tidying: a layout as it was stored or edited is made one that a board can show. Measures out of
range become the defaults, rectangles become whole and lie within the columns, ids become
different, and overlaps are settled.
-/

namespace NoteBoard
namespace Layout

variable {K : Type} [Number K]

/-- A count of columns, the default in place of none. -/
def tidyColumns (columns : Nat) : Nat :=
  if columns = 0 then standardColumns else columns

/-- A row height, the default in place of one that is not finite and positive. -/
def tidyRowHeight (height : K) : K :=
  if Number.isFinite height && decide (0 < height) then height else standardRowHeight

/-- A gap, the default in place of one that is not finite, and zero in place of a negative one. -/
def tidyGap (gap : K) : K :=
  if Number.isFinite gap then Number.atLeast 0 gap else standardGap

/-- The size of a widget that has none: that of new widgets. In pixels, columns are taken to be
as wide as rows are high. -/
def fallbackSize (l : Layout K) (t : WidgetType) : K × K :=
  let extent (cells : Nat) : K :=
    let count : K := Number.ofNat cells
    match l.unit with
    | .cells => count
    | .pixels => count * l.rowHeight + (count - 1) * l.gap
  (extent t.newSize.1, extent t.newSize.2)

/-- The rectangle of a widget in whole units, at least one wide and high, and within the columns
of a grid. -/
def tidyRect? (l : Layout K) (w : Widget K) : Option (Rect K) := do
  let size := l.fallbackSize w.type
  let x := Number.floor (Number.finiteElse 0 w.x)
  let y := Number.atLeast 0 (Number.floor (Number.finiteElse 0 w.y))
  let width := Number.floor (Number.finiteElse size.1 w.w)
  let height := Number.atLeast 1 (Number.floor (Number.finiteElse size.2 w.h))
  match l.unit with
  | .cells =>
    let columns : K := Number.ofNat l.columns
    let width ← Number.clamp? 1 columns width
    return ⟨← Number.clamp? 0 (columns - width) x, y, width, height⟩
  | .pixels => return ⟨Number.atLeast 0 x, y, Number.atLeast 1 width, height⟩

/-- Gives a new label to each widget whose id is blank or was seen before. -/
def relabel [LabelSource] (labels : Labels) (used seen : List String) :
    List (Widget K) → List (Widget K) × Labels
  | [] => ([], labels)
  | w :: rest =>
    if (Text.trim w.id).isEmpty || seen.contains w.id then
      let (id, labels) := labels.fresh used
      let (rest, labels) := relabel labels (id :: used) (id :: seen) rest
      ({ w with id := id } :: rest, labels)
    else
      let (rest, labels) := relabel labels used (w.id :: seen) rest
      (w :: rest, labels)

/-- The layout tidied up, with new labels where ids are blank or repeated. -/
def tidy [LabelSource] (l : Layout K) (limit : Nat) (labels : Labels) :
    Except (Error K) (Layout K × Labels) :=
  let (widgets, labels) := relabel labels l.ids [] l.widgets
  let grid : Layout K :=
    ⟨tidyColumns l.columns, tidyRowHeight l.rowHeight, tidyGap l.gap, l.unit, []⟩
  match widgets.mapM fun w => (grid.tidyRect? w).map w.withRect with
  | some widgets => .ok (({ grid with widgets := widgets }).settle none limit, labels)
  | none => .error .emptyInterval

end Layout
end NoteBoard
