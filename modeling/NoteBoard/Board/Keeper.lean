import NoteBoard.Layout.Basic

/-!
Keepers: where a board saves its layout.
-/

namespace NoteBoard

/-- A keeper of layouts. A save may fail; the board then goes on with what it has. -/
class LayoutKeeper (τ : Type) (K : outParam Type) where
  /-- The keeper after a save, and whether it succeeded. -/
  save : τ → Layout K → τ × Bool

/-- The keeper that forgets every layout. -/
structure NoKeeper (K : Type) where

instance {K : Type} : LayoutKeeper (NoKeeper K) K where
  save s _ := (s, true)

/-- A keeper in memory, which has every layout it was given, the newest last. -/
structure SavedLayouts (K : Type) where
  saved : List (Layout K)

instance {K : Type} : LayoutKeeper (SavedLayouts K) K where
  save s l := (⟨s.saved ++ [l]⟩, true)

end NoteBoard
