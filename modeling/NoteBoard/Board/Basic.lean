import NoteBoard.Board.Fetches
import NoteBoard.Board.Settings
import NoteBoard.Board.Keeper
import NoteBoard.Geometry.Gesture
import NoteBoard.Layout.Convert
import NoteBoard.Layout.Place
import NoteBoard.Layout.Tidy
import NoteBoard.Widget.Evaluate

/-!
The board: its layout and what is going on with it. This module opens a board, loads layouts into
it, and tells it the size of its container.
-/

namespace NoteBoard

/-- A board with a provider of notes and a keeper of layouts. -/
structure Board (K σ τ : Type) where
  settings : Settings K
  source : σ
  keeper : τ
  /-- The layout that counts and is saved. -/
  layout : Layout K
  /-- The layout that is shown while a gesture is in progress. -/
  working : Option (Layout K)
  /-- The size of the container, once it has been measured. -/
  container : Option (Container K)
  gesture : Option (Gesture K)
  fetches : Fetches
  /-- What widgets showed last. -/
  data : Table (WidgetView K)
  labels : Labels

namespace Board

variable {K σ τ : Type}

/-- What a call answers, and the board after it. -/
abbrev Outcome (K σ τ α : Type) := Except (Error K) α × Board K σ τ

/-- The layout as it is shown. -/
def shown (b : Board K σ τ) : Layout K :=
  b.working.getD b.layout

/-- The widget with an id. -/
def widget (b : Board K σ τ) (id : String) : Except (Error K) (Widget K) :=
  match b.layout.find? id with
  | some w => .ok w
  | none => .error (.unknownWidget id)

/-- Ends the gesture in progress without a trace, and says whether there was one. -/
def abandonGesture (b : Board K σ τ) : Bool × Board K σ τ :=
  let (ended, active) := Gesture.finish b.gesture
  (ended.isSome, { b with working := none, gesture := active })

/-- Makes a layout the one that counts, and saves it. -/
def adopt [LayoutKeeper τ K] (b : Board K σ τ) (l : Layout K) : Board K σ τ :=
  { b with layout := l, working := none, keeper := (LayoutKeeper.save b.keeper l).1 }

/-- Forgets everything about widgets that are about to be replaced. -/
def forget (b : Board K σ τ) : Board K σ τ :=
  { b.abandonGesture.2 with fetches := b.fetches.clear, data := [] }

variable [Number K]

/-- A layout in the unit of the board, if that is pixels; a board in cells takes either unit. -/
def inBoardUnit (s : Settings K) (l : Layout K) (c : Container K) : Except (Error K) (Layout K) :=
  match s.unit with
  | .pixels => l.toPixels s.padding c
  | .cells => .ok l

/-- A new board with the layout of its settings, which must be in range. -/
def create [LabelSource] (settings : Settings K) (source : σ) (keeper : τ) (labels : Labels) :
    Except (Error K) (Board K σ τ) := do
  settings.validate
  let (l, labels) := settings.newLayout labels
  let (l, labels) ← l.tidy settings.limit labels
  return ⟨settings, source, keeper, l, none, none, none, .none, [], labels⟩

/-- Replaces the layout by a stored one, tidied and in the unit of the board. It is not saved
again. -/
def load [LabelSource] (b : Board K σ τ) (l : Layout K) : Outcome K σ τ Unit :=
  let loaded : Except (Error K) (Layout K × Labels) := do
    let (l, labels) ← l.tidy b.settings.limit b.labels
    match b.container with
    | some c => return (← inBoardUnit b.settings l c, labels)
    | none => return (l, labels)
  match loaded with
  | .ok (l, labels) => (.ok (), { b.forget with layout := l, labels := labels })
  | .error e => (.error e, b)

/-- Replaces the layout by that of a document. -/
def loadText {K : Type} [Numeral K] [LabelSource] (b : Board K σ τ) (text : String) :
    Outcome K σ τ Unit :=
  match Layout.ofText text with
  | .ok l => b.load l
  | .error e => (.error e, b)

/-- Takes note of the size of the container. A board in pixels whose layout still is in cells
turns it into pixels now; otherwise rectangles stay as they are. -/
def measure [LayoutKeeper τ K] (b : Board K σ τ) (c : Container K) : Outcome K σ τ Unit :=
  if c.isValid then
    let b := { b with container := some c }
    if b.settings.unit = .pixels ∧ b.layout.unit = .cells then
      match b.layout.toPixels b.settings.padding c with
      | .ok l => (.ok (), b.adopt l)
      | .error e => (.error e, b)
    else (.ok (), b)
  else (.error (.container c.width c.height), b)

end Board
end NoteBoard
