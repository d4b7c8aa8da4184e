import NoteBoard.Board.Basic

/-!
Gestures on a board. While one is in progress, a copy of the layout is shown with the widget where
the pointer takes it; overlaps are settled when the gesture ends.
-/

namespace NoteBoard
namespace Board

variable {K σ τ : Type} [Number K]

/-- The measures for gestures. They need a container that is wide enough. -/
def surface (b : Board K σ τ) : Except (Error K) (Surface K) := do
  match b.container with
  | none => throw (.container 0 0)
  | some c =>
    let width ← match b.layout.unit with
      | .cells => b.layout.columnWidth b.settings.padding c
      | .pixels => pure 1
    return ⟨b.layout.unit, b.layout.columns, width, b.layout.rowHeight, b.layout.gap, c,
      b.settings.leastPixels⟩

/-- Begins a gesture on a widget, in place of one that is in progress. -/
def startGesture (b : Board K σ τ) (kind : GestureKind) (id : String) (p : Point K) :
    Outcome K σ τ Unit :=
  let found : Except (Error K) (Widget K) := do
    let _ ← b.surface
    b.widget id
  match found with
  | .ok w =>
    let (_, active) := Gesture.takeOver b.gesture ⟨id, kind, p, w.rect⟩
    (.ok (), { b with working := some b.layout, gesture := active })
  | .error e => (.error e, b)

/-- Moves the pointer, and the widget of the gesture in progress with it. Answers whether there
was a widget to move. -/
def movePointer (b : Board K σ τ) (p : Point K) : Outcome K σ τ Bool :=
  match b.gesture with
  | none => (.ok false, b)
  | some g =>
    match b.surface with
    | .error e => (.error e, b)
    | .ok s =>
      match g.rectAt? s p with
      | none => (.error .emptyInterval, b)
      | some r =>
        let l := b.shown
        (.ok (l.contains g.widget),
          { b with working := some (l.modify g.widget fun w => w.withRect r) })

/-- Ends the gesture in progress: settles around its widget and saves. Answers whether there was a
gesture. -/
def liftPointer [LayoutKeeper τ K] (b : Board K σ τ) : Bool × Board K σ τ :=
  match Gesture.finish b.gesture with
  | (none, _) => (false, b)
  | (some g, active) =>
    (true, { b with gesture := active }.adopt (b.shown.settle (some g.widget) b.settings.limit))

end Board
end NoteBoard
