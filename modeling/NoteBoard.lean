import NoteBoard.Number.Binary64
import NoteBoard.Number.Exact
import NoteBoard.Text.Digit
import NoteBoard.Text.Lowercase
import NoteBoard.Text.Entries
import NoteBoard.Json.Reader
import NoteBoard.Json.Writer
import NoteBoard.Window.Timeframe
import NoteBoard.Filter.Compile
import NoteBoard.Filter.FreeText
import NoteBoard.Vault.Basic
import NoteBoard.Geometry.Gesture
import NoteBoard.Widget.Evaluate
import NoteBoard.Layout.Tidy
import NoteBoard.Layout.Place
import NoteBoard.Layout.Convert
import NoteBoard.Layout.Document
import NoteBoard.Board.Call
import NoteBoard.Proofs.Board.Aligned
import NoteBoard.Proofs.Board.Edited
import NoteBoard.Proofs.Board.Failure
import NoteBoard.Proofs.Board.Fetched
import NoteBoard.Proofs.Board.Registry
import NoteBoard.Proofs.Board.Released
import NoteBoard.Proofs.Board.Saved
import NoteBoard.Proofs.Board.Snapped
import NoteBoard.Proofs.Board.Sound
import NoteBoard.Proofs.Filter.Picked
import NoteBoard.Proofs.Geometry.Travel
import NoteBoard.Proofs.Layout.Cells
import NoteBoard.Proofs.Layout.Counted
import NoteBoard.Proofs.Layout.Forgiving
import NoteBoard.Proofs.Layout.Reordered
import NoteBoard.Proofs.Layout.Rows
import NoteBoard.Proofs.Layout.Skipped
import NoteBoard.Proofs.Query.Descent
import NoteBoard.Proofs.Query.Grammar
import NoteBoard.Proofs.Tally.Monotone
import NoteBoard.Proofs.Tally.Ranked
import NoteBoard.Proofs.Vault.Toggle
import NoteBoard.Proofs.Widget.Compared
import NoteBoard.Proofs.Widget.Upgrade
import NoteBoard.Proofs.Window.Known
import NoteBoard.Proofs.Window.Periods
