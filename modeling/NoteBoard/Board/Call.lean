import NoteBoard.Board.Data
import NoteBoard.Board.Edit
import NoteBoard.Board.Pointer

/-!
Everything a host can ask of a board, as one type of calls with one answer each.
-/

namespace NoteBoard

/-- A call to a board. -/
inductive Call (K : Type) where
  | measure (c : Container K)
  | load (l : Layout K)
  | loadText (text : String)
  | add (t : WidgetType)
  | insert (w : Widget K)
  | remove (id : String)
  | update (id : String) (edit : Widget K → Widget K)
  | reset
  | startGesture (kind : GestureKind) (id : String) (p : Point K)
  | movePointer (p : Point K)
  | liftPointer
  | abandonGesture
  | evaluate (id : String) (now : Instant)
  | evaluateEach (now : Instant)
  | startFetch (id : String)
  | applyFetch (t : Ticket) (data : WidgetView K)
  | flipTask (path : String) (line : Nat)
  | close

/-- What a board answers. -/
inductive Reply (K : Type) where
  | done
  | flag (value : Bool)
  | id (id : String)
  | widget (w : Widget K)
  | data (data : WidgetView K)
  | dataOfAll (data : List (String × WidgetView K))
  | ticket (t : Ticket)
  | failed (e : Error K)

namespace Board

variable {K σ τ : Type}

/-- The answer of a call that may fail. -/
def reply {α : Type} (f : α → Reply K) (o : Outcome K σ τ α) : Reply K × Board K σ τ :=
  match o with
  | (.ok a, b) => (f a, b)
  | (.error e, b) => (.failed e, b)

variable [Numeral K] [TimeZone] [LabelSource] [Provider σ K] [LayoutKeeper τ K]

/-- Performs a call. -/
def perform (b : Board K σ τ) : Call K → Reply K × Board K σ τ
  | .measure c => reply (fun _ => .done) (b.measure c)
  | .load l => reply (fun _ => .done) (b.load l)
  | .loadText text => reply (fun _ => .done) (b.loadText text)
  | .add t => reply .id (b.add t)
  | .insert w => reply .id (b.insert w)
  | .remove id => reply .widget (b.remove id)
  | .update id edit => reply (fun _ => .done) (b.update id edit)
  | .reset => reply (fun _ => .done) b.reset
  | .startGesture kind id p => reply (fun _ => .done) (b.startGesture kind id p)
  | .movePointer p => reply .flag (b.movePointer p)
  | .liftPointer => (.flag b.liftPointer.1, b.liftPointer.2)
  | .abandonGesture => (.flag b.abandonGesture.1, b.abandonGesture.2)
  | .evaluate id now => reply .data (b.evaluate id now)
  | .evaluateEach now => (.dataOfAll (b.evaluateEach now).1, (b.evaluateEach now).2)
  | .startFetch id => reply .ticket (b.startFetch id)
  | .applyFetch t data => (.flag (b.applyFetch t data).1, (b.applyFetch t data).2)
  | .flipTask path line => (.flag (b.flipTask path line).1, (b.flipTask path line).2)
  | .close => (.done, b.close)

end Board
end NoteBoard
