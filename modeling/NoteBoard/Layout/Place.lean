import NoteBoard.Layout.Settle

/-!
The place of a widget that is added to a layout.
-/

namespace NoteBoard
namespace Layout

variable {K : Type} [Number K]

/-- The first row below all widgets; those that reach no finite row do not count. -/
def nextRow (l : Layout K) : K :=
  ((l.widgets.map fun w => w.rect.bottom).filter Number.isFinite).foldl Number.max 0

/-- Adds a widget at the left of the first row below all others, and settles around it. -/
def place (l : Layout K) (w : Widget K) (limit : Nat) : Layout K :=
  let placed := { w with x := 0, y := l.nextRow }
  { l with widgets := l.widgets ++ [placed] }.settle (some w.id) limit

end Layout
end NoteBoard
