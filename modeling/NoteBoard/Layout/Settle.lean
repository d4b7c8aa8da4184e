import NoteBoard.Layout.Basic
import NoteBoard.Sorting

/-!
Settling: widgets are moved down until none overlaps another. They are placed one after another
from the top left; one widget may be pinned, and is then placed first and does not move.
-/

namespace NoteBoard

variable {K : Type} [Number K]

namespace Rect

/-- The order in which rectangles are placed: by rows, and in a row by columns. -/
def placedBefore (a b : Rect K) : Bool :=
  ((Number.totalOrder a.y b.y).then (Number.totalOrder a.x b.x)).isLE

/-- The lowest edge of the rectangles that a rectangle overlaps, if there are any. -/
def blockedUntil? (placed : List (Rect K)) (r : Rect K) : Option K :=
  match (placed.filter fun other => other.Overlaps r).map bottom with
  | [] => none
  | edge :: edges => some (edges.foldl Number.max edge)

/-- Moves a rectangle below what it overlaps, again and again until it is free or the tries are
used up. -/
def drop (placed : List (Rect K)) : Nat → Rect K → Rect K
  | 0, r => r
  | tries + 1, r =>
    match blockedUntil? placed r with
    | some y => drop placed tries { r with y := y }
    | none => r

/-- Drops rectangles one after another, each below those before it, and returns them in reverse
order before those already placed. -/
def dropAll (tries : Nat) (placed : List (Rect K)) : List (Rect K) → List (Rect K)
  | [] => placed
  | r :: rest => dropAll tries (drop placed tries r :: placed) rest

end Rect

namespace Layout

/-- Whether any two widgets overlap. -/
def overlapping : List (Rect K) → Bool
  | [] => false
  | r :: rest => rest.any (fun other => decide (r.Overlaps other)) || overlapping rest

def isOverlapping (l : Layout K) : Bool :=
  overlapping (l.widgets.map Widget.rect)

/-- The positions of the widgets that are not pinned, in the order in which they are placed. -/
def queue (l : Layout K) (pinned : Option Nat) : List (Widget K × Nat) :=
  sortBy (fun a b => a.1.rect.placedBefore b.1.rect)
    (l.widgets.zipIdx.filter fun entry => pinned ≠ some entry.2)

/-- The settled rectangles by position in the layout, the pinned one left out. -/
def settledRects (l : Layout K) (pinned : Option Nat) (limit : Nat) : List (Nat × Rect K) :=
  let queue := l.queue pinned
  let fixed := ((pinned.bind fun index => l.widgets[index]?).map Widget.rect).toList
  let placed := Rect.dropAll limit fixed (queue.map (·.1.rect))
  (queue.map Prod.snd).zip (placed.take queue.length).reverse

/-- The layout with its widgets moved down until none overlaps another. The first widget with the
pinned id stays where it is. -/
def settle (l : Layout K) (pinned : Option String) (limit : Nat) : Layout K :=
  let index := pinned.bind fun id => l.widgets.findIdx? (·.id == id)
  let settled := l.settledRects index limit
  { l with widgets := l.widgets.mapIdx fun i w =>
      match settled.lookup i with
      | some r => w.withRect r
      | none => w }

end Layout
end NoteBoard
