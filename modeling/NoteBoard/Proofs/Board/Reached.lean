import Mathlib.Data.List.Infix
import NoteBoard.Board.Call

/-! The boards that a host can come to have. -/
namespace NoteBoard
namespace Board

variable {K σ τ : Type} [Numeral K] [TimeZone] [LabelSource] [Provider σ K] [LayoutKeeper τ K]

/-- A board is reached from a new board by calls, successful or not, as long as every board on the
way is admitted. -/
inductive Reached (Admitted : Board K σ τ → Prop) : Board K σ τ → Prop where
  | created {settings : Settings K} {source : σ} {keeper : τ} {labels : Labels}
      {b : Board K σ τ} (hCreate : create settings source keeper labels = .ok b)
      (hAdmitted : Admitted b) : Reached Admitted b
  | called {b : Board K σ τ} (prior : Reached Admitted b) (call : Call K)
      (hAdmitted : Admitted (b.perform call).2) : Reached Admitted (b.perform call).2

/-- What holds of new boards, and is kept by every call that leads to an admitted board, holds of
every board that is reached. -/
theorem Reached.invariant {Admitted Inv : Board K σ τ → Prop}
    (hCreate : ∀ settings source keeper labels b,
      create settings source keeper labels = .ok b → Admitted b → Inv b)
    (hCall : ∀ b call, Inv b → Admitted (b.perform call).2 → Inv (b.perform call).2)
    {b : Board K σ τ} (h : Reached Admitted b) : Inv b := by
  induction h with
  | created hCreated hAdmitted => exact hCreate _ _ _ _ _ hCreated hAdmitted
  | called _ call hAdmitted ih => exact hCall _ call ih hAdmitted

/-- The board after one call after another. -/
def run (b : Board K σ τ) (calls : List (Call K)) : Board K σ τ :=
  calls.foldl (fun b call => (b.perform call).2) b

theorem run_append (b : Board K σ τ) (calls more : List (Call K)) :
    b.run (calls ++ more) = (b.run calls).run more :=
  List.foldl_append

/-- Calls lead from one board that is reached to another, if the boards in between are admitted. -/
theorem Reached.run {Admitted : Board K σ τ → Prop} {b : Board K σ τ} (h : Reached Admitted b)
    {calls : List (Call K)} (hAdmitted : ∀ done ∈ calls.inits, Admitted (b.run done)) :
    Reached Admitted (b.run calls) := by
  induction calls generalizing b with
  | nil => exact h
  | cons call rest ih =>
      have hFirst : Admitted (b.perform call).2 := hAdmitted [call] (by simp)
      apply ih (h.called call hFirst)
      intro done hDone
      exact hAdmitted (call :: done) (by simp_all)

/-- Each widget may be pushed down once for each widget of the board. -/
def HasRoom (b : Board K σ τ) : Prop :=
  b.layout.widgets.length ≤ b.settings.limit

end Board
end NoteBoard
