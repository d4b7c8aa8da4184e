import NoteBoard.Number.Basic

/-!
Rectangles with sides along the axes, in grid cells or in pixels.
-/

namespace NoteBoard

/-- A point, such as that of a pointer. -/
structure Point (K : Type) where
  x : K
  y : K
deriving DecidableEq, BEq

/-- A rectangle: its left upper corner, width and height. -/
structure Rect (K : Type) where
  x : K
  y : K
  w : K
  h : K
deriving DecidableEq, BEq

namespace Rect

variable {K : Type} [Number K]

def right (r : Rect K) : K := r.x + r.w

def bottom (r : Rect K) : K := r.y + r.h

def isFinite (r : Rect K) : Bool :=
  Number.isFinite r.x && Number.isFinite r.y && Number.isFinite r.w && Number.isFinite r.h

/-- Whether the insides meet. Rectangles that share only an edge do not overlap. -/
def Overlaps (a b : Rect K) : Prop :=
  a.x < b.right ∧ b.x < a.right ∧ a.y < b.bottom ∧ b.y < a.bottom

instance (a b : Rect K) : Decidable (a.Overlaps b) :=
  inferInstanceAs (Decidable (_ ∧ _ ∧ _ ∧ _))

/-- With the corner at another place. -/
def placed (r : Rect K) (x y : K) : Rect K := { r with x := x, y := y }

/-- With another size. -/
def sized (r : Rect K) (w h : K) : Rect K := { r with w := w, h := h }

theorem Overlaps.symm {a b : Rect K} (h : a.Overlaps b) : b.Overlaps a :=
  ⟨h.2.1, h.1, h.2.2.2, h.2.2.1⟩

end Rect
end NoteBoard
