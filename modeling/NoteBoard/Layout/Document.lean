import NoteBoard.Error
import NoteBoard.Json.Reader
import NoteBoard.Json.Writer
import NoteBoard.Layout.Basic
import NoteBoard.Widget.Codec

/-!
Layouts as documents: bare, or wrapped with the version of the schema. The forgiving reader takes
either form and leaves out widgets that it cannot read.
-/

namespace NoteBoard
namespace Layout

variable {K : Type} [Numeral K]

/-- The version of the schema that is written. -/
def documentVersion : Nat := 1

omit [Numeral K] in
def toJson (l : Layout K) : Json K :=
  .object [("columns", .integer l.columns), ("rowHeight", .real l.rowHeight), ("gap", .real l.gap),
    ("unit", .text l.unit.name), ("widgets", .array (l.widgets.map Widget.toJson))]

omit [Numeral K] in
/-- The layout wrapped with the version of the schema. -/
def contract (l : Layout K) : Json K :=
  .object [("schemaVersion", .integer documentVersion), ("layout", l.toJson)]

/-- The layout of a record with the measures, with widgets put in. -/
def ofRecord? (r : Json.Record K) (widgets : List (Widget K)) : Option (Layout K) := do
  return ⟨← r.withDefault "columns" standardColumns Json.lenientCount?,
    ← r.withDefault "rowHeight" standardRowHeight Json.lenientNumber?,
    ← r.withDefault "gap" standardGap Json.lenientNumber?,
    ← r.withDefault "unit" .cells (Json.choice? Json.isNull Coordinates.names), widgets⟩

/-- A layout of which every widget can be read. -/
def ofJson? (value : Json K) : Option (Layout K) := do
  let r ← value.record? ["columns", "rowHeight", "gap", "unit", "widgets"]
  ofRecord? r (← r.withDefault "widgets" [] (Json.list? Widget.ofJson?))

/-- A wrapped layout of which every widget can be read, with the version. -/
def ofContract? (value : Json K) : Option (Nat × Layout K) := do
  let r ← value.record? ["schemaVersion", "layout"]
  return (← r.required "schemaVersion" Json.nat32?, ← r.required "layout" ofJson?)

/-- The layout of a bare or wrapped document, without the widgets that cannot be read. -/
def ofLenientObject (value : Json K) : Except (Error K) (Layout K) :=
  match value with
  | .object members =>
    let widgets := match members.lookup "widgets" with
      | some (.array items) => items.filterMap Widget.ofJson?
      | _ => []
    let header := (Json.object members).record? ["columns", "rowHeight", "gap", "unit"]
    match header.bind fun r => ofRecord? r widgets with
    | some l => .ok l
    | none => .error (.invalid "failed to parse layout header")
  | _ => .error (.notALayout "layout payload must be a json object")

/-- The layout of a bare or wrapped document. Only the version that is written is known. -/
def ofLenientJson (value : Json K) : Except (Error K) (Layout K) :=
  match value.member? "schemaVersion" with
  | none => ofLenientObject value
  | some (.integer 1) => match value.member? "layout" with
    | some layout => ofLenientObject layout
    | none => .error (.notALayout "document has no layout")
  | some version =>
    .error (.invalid ("unsupported layout schema version: " ++ version.compact))

/-- The layout of the text of a bare or wrapped document, without the widgets that cannot be
read. Members of an object are taken once each, the last of those with one name. -/
def ofText (text : String) : Except (Error K) (Layout K) :=
  match Json.readCanonical? text with
  | some value => ofLenientJson value
  | none => .error (.invalid "failed to parse layout json payload")

/-- The layout of the text of a bare document of which every widget can be read. -/
def ofStrictText (text : String) : Except (Error K) (Layout K) :=
  match (Json.read? text).bind ofJson? with
  | some l => .ok l
  | none => .error (.invalid "failed to parse layout")

end Layout
end NoteBoard
