import NoteBoard.Board.Basic

/-!
Changes of the layout: widgets are added, removed and edited, and the board is reset. Every
change that succeeds ends the gesture in progress and is saved.
-/

namespace NoteBoard
namespace Board

variable {K σ τ : Type} [Number K] [LayoutKeeper τ K]

/-- Adds a widget at the first row below all others, and answers its id. A blank id, or one that
is taken, is replaced. -/
def insert [LabelSource] (b : Board K σ τ) (w : Widget K) : Outcome K σ τ String :=
  match (b.layout.place w b.settings.limit).tidy b.settings.limit b.labels with
  | .ok (l, labels) =>
    let id := (l.widgets.getLast?.map (·.id)).getD ""
    (.ok id, { b.abandonGesture.2 with labels := labels }.adopt l)
  | .error e => (.error e, b)

/-- The size of a new widget in pixels. Without a container, columns are taken to be as wide as
rows are high. -/
def newPixelRect (b : Board K σ τ) (cells : Rect K) : Except (Error K) (Rect K) := do
  let width ← match b.container with
    | some c => b.layout.columnWidth b.settings.padding c
    | none => pure b.layout.rowHeight
  let r := (b.layout.grid b.settings.padding).toPixels width cells
  return ⟨0, 0, r.w, r.h⟩

/-- Adds a new widget of a type, and answers its id. -/
def add [LabelSource] (b : Board K σ τ) (t : WidgetType) : Outcome K σ τ String :=
  let (id, labels) := b.labels.fresh b.layout.ids
  let w : Widget K := .new id t
  let rect : Except (Error K) (Rect K) := match b.layout.unit with
    | .cells => .ok w.rect
    | .pixels => b.newPixelRect w.rect
  match rect with
  | .ok r => { b with labels := labels }.insert (w.withRect r)
  | .error e => (.error e, b)

/-- Removes a widget and answers it. Its fetch is cancelled. -/
def remove (b : Board K σ τ) (id : String) : Outcome K σ τ (Widget K) :=
  match b.widget id with
  | .ok w =>
    (.ok w, { b.abandonGesture.2 with
      fetches := (b.fetches.cancel id).2
      data := b.data.erase id }.adopt (b.layout.remove id))
  | .error e => (.error e, b)

/-- Edits a widget. Fields of older documents are turned into filters first. Whatever the edit
does, the id stays. -/
def update [LabelSource] (b : Board K σ τ) (id : String) (edit : Widget K → Widget K) :
    Outcome K σ τ Unit :=
  let edited := b.layout.modify id fun w => { edit w.upgrade with id := id }
  match b.widget id, edited.tidy b.settings.limit b.labels with
  | .ok _, .ok (l, labels) =>
    (.ok (), { b.abandonGesture.2 with
      fetches := (b.fetches.cancel id).2
      data := b.data.erase id
      labels := labels }.adopt l)
  | .error e, _ => (.error e, b)
  | _, .error e => (.error e, b)

/-- Replaces the layout by that of a new board. -/
def reset [LabelSource] (b : Board K σ τ) : Outcome K σ τ Unit :=
  let (l, labels) := b.settings.newLayout b.labels
  match l.tidy b.settings.limit labels with
  | .ok (l, labels) =>
    let b := { b.forget with labels := labels }
    let converted : Except (Error K) (Layout K) := match b.container with
      | some c => inBoardUnit b.settings l c
      | none => .ok l
    match converted with
    | .ok l => (.ok (), b.adopt l)
    | .error e => (.error e, b)
  | .error e => (.error e, b)

end Board
end NoteBoard
