import NoteBoard.Geometry.Grid
import NoteBoard.Label
import NoteBoard.Widget.Basic

/-!
Layouts: the widgets of a board and the measures of the grid they lie on.
-/

namespace NoteBoard

/-- A layout. The measures belong to the grid even where the widgets are placed in pixels. -/
structure Layout (K : Type) where
  columns : Nat
  rowHeight : K
  gap : K
  unit : Coordinates
  widgets : List (Widget K)
deriving DecidableEq, BEq

namespace Layout

/-- The measures of a board without settings. -/
def standardColumns : Nat := 12

variable {K : Type}

def standardRowHeight [Number K] : K := 80

def standardGap [Number K] : K := 16

/-- How often a widget is pushed down at most, unless settings say otherwise. -/
def standardLimit : Nat := 1000

def grid (l : Layout K) (padding : K) : Grid K :=
  ⟨l.columns, l.rowHeight, l.gap, padding⟩

def ids (l : Layout K) : List String :=
  l.widgets.map (·.id)

/-- The first widget with an id. -/
def find? (l : Layout K) (id : String) : Option (Widget K) :=
  l.widgets.find? (·.id == id)

def contains (l : Layout K) (id : String) : Bool :=
  (l.find? id).isSome

/-- Changes the first widget with an id. -/
def modifyFirst (id : String) (f : Widget K → Widget K) : List (Widget K) → List (Widget K)
  | [] => []
  | w :: rest => if w.id = id then f w :: rest else w :: modifyFirst id f rest

def modify (l : Layout K) (id : String) (f : Widget K → Widget K) : Layout K :=
  { l with widgets := modifyFirst id f l.widgets }

/-- Removes the first widget with an id. -/
def remove (l : Layout K) (id : String) : Layout K :=
  { l with widgets := l.widgets.eraseP (·.id == id) }

/-- The layout of a new board on a grid, with labels for its widgets. -/
def starter [Number K] [LabelSource] (columns : Nat) (rowHeight gap : K) (labels : Labels) :
    Layout K × Labels :=
  let (ids, labels) := labels.freshMany [] 4
  (⟨columns, rowHeight, gap, .cells, Widget.starters fun n => ids.getD n ""⟩, labels)

end Layout
end NoteBoard
