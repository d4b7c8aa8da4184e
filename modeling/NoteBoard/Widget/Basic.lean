import NoteBoard.Geometry.Rect
import NoteBoard.Widget.Settings

/-!
Widgets: the tiles of a board.
-/

namespace NoteBoard

inductive TitleSize where
  | small
  | medium
  | large
deriving DecidableEq

inductive TitleSide where
  | left
  | center
  | right
deriving DecidableEq

/-- A tile of a board: its place, how it is labelled, and its settings. Coordinates that were not
written or cannot be read are not numbers. -/
structure Widget (K : Type) where
  id : String
  x : K
  y : K
  w : K
  h : K
  title : Option String
  titleSize : TitleSize
  titleSide : TitleSide
  headerIcon : Option String
  settings : WidgetSettings K
deriving DecidableEq, BEq

/-- Where a legend stands. -/
inductive LegendPlace where
  | side
  | bottom
deriving DecidableEq

/-- A legend stands beside a chart that is wider than high, and else below it. -/
def LegendPlace.of {K : Type} [Number K] (width height : K) : LegendPlace :=
  if height < width then .side else .bottom

def LegendPlace.name : LegendPlace → String
  | .side => "side"
  | .bottom => "bottom"

namespace Widget

variable {K : Type}

/-- A widget without a title. -/
def of (id : String) (settings : WidgetSettings K) (r : Rect K) : Widget K :=
  ⟨id, r.x, r.y, r.w, r.h, none, .medium, .left, none, settings⟩

def rect (w : Widget K) : Rect K := ⟨w.x, w.y, w.w, w.h⟩

/-- With another place. -/
def withRect (w : Widget K) (r : Rect K) : Widget K :=
  { w with x := r.x, y := r.y, w := r.w, h := r.h }

def type (w : Widget K) : WidgetType := w.settings.type

@[simp] theorem rect_withRect (w : Widget K) (r : Rect K) : (w.withRect r).rect = r := rfl

@[simp] theorem id_withRect (w : Widget K) (r : Rect K) : (w.withRect r).id = w.id := rfl

@[simp] theorem withRect_rect (w : Widget K) : w.withRect w.rect = w := rfl

variable [Number K]

/-- The size of a new widget of a type, in cells. -/
def newRect (t : WidgetType) : Rect K :=
  ⟨0, 0, Number.ofNat t.newSize.1, Number.ofNat t.newSize.2⟩

/-- A new widget of a type, at the origin. -/
def new (id : String) (t : WidgetType) : Widget K :=
  { of id (.new t) (newRect t) with title := some t.newTitle }

/-- The widgets of a new board, with ids given for them in order. -/
def starters (ids : Nat → String) : List (Widget K) :=
  let tile (n : Nat) (title : String) (settings : WidgetSettings K) (r : Rect K) : Widget K :=
    { of (ids n) settings r with title := some title }
  [tile 0 "Notes" (.stats .new) ⟨0, 0, 3, 2⟩,
    tile 1 "Tasks" (.stats { CountSettings.new with counted := .tasks }) ⟨3, 0, 3, 2⟩,
    tile 2 "Open tasks"
      (.taskList { TaskListSettings.new with filters := [.everything], limit := some 20 })
      ⟨0, 2, 6, 4⟩,
    tile 3 "Tags" (.pieChart { ChartSettings.new .group with limit := some 8 }) ⟨6, 0, 6, 6⟩]

end Widget
end NoteBoard
