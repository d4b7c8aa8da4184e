import NoteBoard.Layout.Document
import NoteBoard.Window.Preset

/-!
The settings of a board. All have defaults, so that a stored document holds only what differs.
-/

namespace NoteBoard

/-- The settings of a board: the grid of new layouts, the unit boards are kept in, limits, and the
presets of time windows. -/
structure Settings (K : Type) where
  columns : Nat
  rowHeight : K
  gap : K
  padding : K
  unit : Coordinates
  /-- The least width and height of a widget in pixels. -/
  leastPixels : K
  /-- How often a widget is pushed down at most. -/
  limit : Nat
  presets : List Preset

namespace Settings

variable {K : Type}

def defaults [Number K] : Settings K :=
  ⟨Layout.standardColumns, Layout.standardRowHeight, Layout.standardGap, 16, .cells, 120,
    Layout.standardLimit, Preset.defaults⟩

/-- The layout of a new board, with labels for its widgets. -/
def newLayout [Number K] [LabelSource] (s : Settings K) (labels : Labels) : Layout K × Labels :=
  Layout.starter s.columns s.rowHeight s.gap labels

/-- Whether a number is finite and at least a least one. -/
def atLeast [Number K] (least x : K) : Bool :=
  Number.isFinite x && !decide (x < least)

/-- Checks the numbers, and names the first that is out of range. -/
def validate [Number K] (s : Settings K) : Except (Error K) Unit :=
  if s.columns = 0 then .error (.invalid "columns must be at least 1")
  else if !Number.isFinite s.rowHeight || decide (s.rowHeight ≤ 0) then
    .error (.invalid "row height must be finite and > 0")
  else if !atLeast 0 s.gap then .error (.invalid "gap must be finite and >= 0")
  else if !atLeast 0 s.padding then .error (.invalid "padding must be finite and >= 0")
  else if !atLeast 1 s.leastPixels then
    .error (.invalid "minimum widget size must be finite and >= 1")
  else .ok ()

def toJson (s : Settings K) : Json K :=
  .object [("columns", .integer s.columns), ("rowHeight", .real s.rowHeight), ("gap", .real s.gap),
    ("padding", .real s.padding), ("canvasUnit", .text s.unit.name),
    ("minWidgetPx", .real s.leastPixels), ("collisionIterationLimit", .integer s.limit),
    ("timePresets", .array (s.presets.map Preset.toJson))]

def ofJson? [Number K] (value : Json K) : Option (Settings K) := do
  let r ← value.record? ["columns", "rowHeight", "gap", "padding", "canvasUnit", "minWidgetPx",
    "collisionIterationLimit", "timePresets"]
  let d : Settings K := defaults
  return ⟨← r.withDefault "columns" d.columns Json.nat32?,
    ← r.withDefault "rowHeight" d.rowHeight Json.number?,
    ← r.withDefault "gap" d.gap Json.number?, ← r.withDefault "padding" d.padding Json.number?,
    ← r.withDefault "canvasUnit" d.unit (Json.choice? Json.isNull Coordinates.names),
    ← r.withDefault "minWidgetPx" d.leastPixels Json.number?,
    ← r.withDefault "collisionIterationLimit" d.limit Json.nat64?,
    ← r.withDefault "timePresets" d.presets (Json.list? Preset.ofJson?)⟩

/-- The settings in a text. They are not checked. -/
def ofText [Numeral K] (text : String) : Except (Error K) (Settings K) :=
  match (Json.read? text).bind ofJson? with
  | some s => .ok s
  | none => .error (.invalid "failed to parse dashboard config")

end Settings
end NoteBoard
