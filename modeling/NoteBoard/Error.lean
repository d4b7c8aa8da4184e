import NoteBoard.Number.Numeral
import NoteBoard.Vault.Provider

/-!
Everything that can go wrong on a board, and the words for it.
-/

namespace NoteBoard

/-- Why an operation on a board fails. -/
inductive Error (K : Type) where
  /-- A document does not hold a layout. -/
  | notALayout (reason : String)
  /-- A container without a size, or too narrow for the grid. -/
  | container (width height : K)
  | unknownWidget (id : String)
  /-- A count per day over a window that may be endless. -/
  | unboundedWindow
  | provider (cause : ProviderError)
  | invalid (reason : String)
  /-- A number was to be put into an interval that is empty. -/
  | emptyInterval

namespace Error

variable {K : Type}

/-- The reason in a count per day over a window that may be endless. -/
def perDayReason : String := "per-day basis requires a bounded time range"

def message [Numeral K] : Error K → String
  | .notALayout reason => "invalid layout: " ++ reason
  | .container width height =>
    "invalid container size: width=" ++ Numeral.plain width ++ ", height=" ++ Numeral.plain height
  | .unknownWidget id => "unknown widget: " ++ id
  | .unboundedWindow => "time range is unbounded: " ++ perDayReason
  | .provider cause => "data source error: " ++ cause.message
  | .invalid reason => "invalid data: " ++ reason
  | .emptyInterval => "empty interval"

end Error
end NoteBoard
