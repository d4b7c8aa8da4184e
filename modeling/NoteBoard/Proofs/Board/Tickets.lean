import Mathlib.Data.List.Induction
import Mathlib.Data.List.Basic
import Mathlib.Data.List.Nodup
import NoteBoard.Board.Fetches

/-! The tickets of fetches, whatever order fetches are started, ended and cancelled in. A ticket
that is superseded while its fetch is under way is never live again. One whose fetch has ended is
not under way, so the next fetch does not cancel it. -/
namespace NoteBoard
namespace Fetches

/-- What a host does with the fetches of a board. -/
inductive Op where
  | start (widget : String)
  | cancel (widget : String)
  | clear
  | ended (t : Ticket)
deriving DecidableEq

/-- The tickets that have been issued, in order, and the fetches. -/
structure History where
  issued : List Ticket
  fetches : Fetches

namespace History

/-- A history with one more operation. -/
def perform (h : History) : Op → History
  | .start widget => ⟨h.issued ++ [(h.fetches.start widget).1], (h.fetches.start widget).2⟩
  | .cancel widget => ⟨h.issued, (h.fetches.cancel widget).2⟩
  | .clear => ⟨h.issued, h.fetches.clear⟩
  | .ended t => ⟨h.issued, h.fetches.ended t⟩

/-- The history of operations, from no fetches on. -/
def of (ops : List Op) : History :=
  ops.foldl perform ⟨[], .none⟩

theorem of_append (ops more : List Op) : of (ops ++ more) = more.foldl perform (of ops) := by
  rw [of, List.foldl_append, of]

end History

/-- The fetches after an operation. -/
def after (f : Fetches) (op : Op) : Fetches :=
  (History.perform ⟨[], f⟩ op).fetches

theorem fetches_perform (h : History) (op : Op) : (h.perform op).fetches = h.fetches.after op := by
  cases op with
  | _ => rfl

theorem fetches_foldl (ops : List Op) (h : History) :
    (ops.foldl History.perform h).fetches = ops.foldl after h.fetches := by
  induction ops generalizing h with
  | nil => rfl
  | cons op rest ih => rw [List.foldl_cons, List.foldl_cons, ih, fetches_perform]

theorem isLive_iff {f : Fetches} {t : Ticket} :
    f.isLive t = true ↔ f.dropped < t.generation ∧ t.generation ∉ f.cancelled := by
  simp [isLive]

/-- A new fetch cancels the one of its widget that is under way, and no other. -/
theorem isLive_start {f : Fetches} {t : Ticket} {widget : String} :
    (f.start widget).2.isLive t = true ↔
      f.isLive t = true ∧ f.pending.lookup widget ≠ some t.generation := by
  cases hStale : f.pending.lookup widget with
  | none => simp [isLive_iff, start, hStale]
  | some generation =>
      simp only [isLive_iff, start, hStale, Option.toList_some, List.singleton_append,
        List.mem_cons, not_or, ne_eq, Option.some.injEq]
      constructor
      · rintro ⟨hDropped, hOther, hCancelled⟩
        exact ⟨⟨hDropped, hCancelled⟩, fun h => hOther h.symm⟩
      · rintro ⟨⟨hDropped, hCancelled⟩, hOther⟩
        exact ⟨hDropped, fun h => hOther h.symm, hCancelled⟩

theorem isLive_cancel {f : Fetches} {t : Ticket} {widget : String} :
    (f.cancel widget).2.isLive t = true ↔
      f.isLive t = true ∧ f.pending.lookup widget ≠ some t.generation := by
  cases hStale : f.pending.lookup widget with
  | none => simp [isLive_iff, cancel, hStale]
  | some generation =>
      simp only [isLive_iff, cancel, hStale, List.mem_cons, not_or, ne_eq, Option.some.injEq]
      constructor
      · rintro ⟨hDropped, hOther, hCancelled⟩
        exact ⟨⟨hDropped, hCancelled⟩, fun h => hOther h.symm⟩
      · rintro ⟨⟨hDropped, hCancelled⟩, hOther⟩
        exact ⟨hDropped, fun h => hOther h.symm, hCancelled⟩

theorem isLive_ended {f : Fetches} {t ended : Ticket} :
    (f.ended ended).isLive t = f.isLive t := by
  unfold Fetches.ended
  split
  · rfl
  · rfl

theorem isLive_clear {f : Fetches} {t : Ticket} (hIssued : t.generation ≤ f.issued) :
    f.clear.isLive t = false := by
  have hDropped : ¬ f.issued < t.generation := by omega
  simp [isLive, clear, hDropped]

theorem lookup_pending_cancel (f : Fetches) (widget other : String) :
    (f.cancel widget).2.pending.lookup other =
      if other = widget then .none else f.pending.lookup other := by
  unfold cancel
  split
  · exact Table.lookup_erase _ widget other
  · next hNone =>
    split
    · next h => rw [h, hNone]
    · rfl

/-- Ending a fetch takes its ticket out of those under way, and leaves all others. -/
theorem lookup_pending_ended (f : Fetches) (t : Ticket) (other : String) :
    (f.ended t).pending.lookup other =
      if other = t.widget ∧ f.pending.lookup other = some t.generation then .none
      else f.pending.lookup other := by
  by_cases hCurrent : f.pending.lookup t.widget = some t.generation
  · rw [ended, if_pos hCurrent]
    by_cases hOther : other = t.widget
    · rw [hOther, Table.lookup_erase_self, if_pos ⟨rfl, hCurrent⟩]
    · rw [Table.lookup_erase_of_ne _ hOther, if_neg fun hBoth => hOther hBoth.1]
  · rw [ended, if_neg hCurrent, if_neg]
    rintro ⟨hSame, hPending⟩
    exact hCurrent (hSame ▸ hPending)

namespace History

/-- Generations count the tickets in order of issue, and what is under way has been issued. -/
structure IsSound (h : History) : Prop where
  generations : h.issued.map Ticket.generation = List.range' 1 h.fetches.issued
  pending : ∀ widget generation, h.fetches.pending.lookup widget = some generation →
    (⟨widget, generation⟩ : Ticket) ∈ h.issued

namespace IsSound

variable {h : History} (hSound : h.IsSound)

include hSound

theorem generation_le {t : Ticket} (ht : t ∈ h.issued) : t.generation ≤ h.fetches.issued := by
  have hMem : t.generation ∈ List.range' 1 h.fetches.issued :=
    hSound.generations ▸ List.mem_map_of_mem ht
  have hRange := List.mem_range'_1.1 hMem
  omega

theorem nodup_generations : (h.issued.map Ticket.generation).Nodup := by
  rw [hSound.generations]
  exact List.nodup_range'

theorem eq_of_generation {a b : Ticket} (ha : a ∈ h.issued) (hb : b ∈ h.issued)
    (hSame : a.generation = b.generation) : a = b :=
  List.inj_on_of_nodup_map hSound.nodup_generations ha hb hSame

/-- The generation under way for a widget is that of a ticket of the widget. -/
theorem widget_of_pending {t : Ticket} (ht : t ∈ h.issued) {widget : String}
    (hPending : h.fetches.pending.lookup widget = some t.generation) : widget = t.widget :=
  congrArg Ticket.widget (hSound.eq_of_generation (hSound.pending _ _ hPending) ht rfl)

theorem perform (op : Op) : (h.perform op).IsSound := by
  cases op with
  | start widget =>
      refine ⟨?_, ?_⟩
      · simp only [History.perform, start, List.map_append, hSound.generations, List.map_cons,
          List.map_nil, List.range'_concat, Nat.one_mul, Nat.add_comm]
      · intro other generation hPending
        simp only [History.perform, start, Table.lookup_set] at hPending ⊢
        split at hPending
        · next hOther =>
          cases hPending
          rw [hOther]
          exact List.mem_append_right _ List.mem_cons_self
        · exact List.mem_append_left _ (hSound.pending other generation hPending)
  | cancel widget =>
      refine ⟨?_, ?_⟩
      · simp only [History.perform, Fetches.cancel]
        split
        · exact hSound.generations
        · exact hSound.generations
      · intro other generation hPending
        simp only [History.perform, lookup_pending_cancel] at hPending
        split at hPending
        · cases hPending
        · exact hSound.pending other generation hPending
  | clear => exact ⟨hSound.generations, fun _ _ hPending => by cases hPending⟩
  | ended t =>
      refine ⟨?_, ?_⟩
      · simp only [History.perform, Fetches.ended]
        split
        · exact hSound.generations
        · exact hSound.generations
      · intro other generation hPending
        simp only [History.perform, lookup_pending_ended] at hPending
        split at hPending
        · cases hPending
        · exact hSound.pending other generation hPending

end IsSound

theorem of_isSound (ops : List Op) : (of ops).IsSound := by
  induction ops using List.reverseRecOn with
  | nil => exact ⟨rfl, fun _ _ hPending => by cases hPending⟩
  | append_singleton ops op ih =>
      rw [of_append]
      exact ih.perform op

end History

/-- A ticket of the past that no widget waits for. -/
structure IsOver (f : Fetches) (t : Ticket) : Prop where
  issued : t.generation ≤ f.issued
  notPending : ∀ widget, f.pending.lookup widget ≠ some t.generation

/-- What is over stays over, and nothing but the end of all fetches can cancel it. -/
theorem IsOver.after {f : Fetches} {t : Ticket} (h : f.IsOver t) (op : Op) :
    (f.after op).IsOver t ∧
      ((f.after op).isLive t = true ↔ f.isLive t = true ∧ op ≠ .clear) := by
  cases op with
  | start widget =>
      refine ⟨⟨Nat.le_succ_of_le h.issued, ?_⟩, ?_⟩
      · intro other
        simp only [Fetches.after, History.perform, start, Table.lookup_set]
        split
        · intro hNew
          have hNewest := Option.some.inj hNew
          have hIssued := h.issued
          omega
        · exact h.notPending other
      · rw [Fetches.after, History.perform, isLive_start]
        simp [h.notPending widget]
  | cancel widget =>
      refine ⟨⟨?_, ?_⟩, ?_⟩
      · simp only [Fetches.after, History.perform, cancel]
        split
        · exact h.issued
        · exact h.issued
      · intro other
        simp only [Fetches.after, History.perform, lookup_pending_cancel]
        split
        · nofun
        · exact h.notPending other
      · rw [Fetches.after, History.perform, isLive_cancel]
        simp [h.notPending widget]
  | clear =>
      refine ⟨⟨h.issued, nofun⟩, ?_⟩
      rw [Fetches.after, History.perform, isLive_clear h.issued]
      simp
  | ended ended =>
      refine ⟨⟨?_, ?_⟩, ?_⟩
      · simp only [Fetches.after, History.perform, Fetches.ended]
        split
        · exact h.issued
        · exact h.issued
      · intro other
        simp only [Fetches.after, History.perform, lookup_pending_ended]
        split
        · nofun
        · exact h.notPending other
      · rw [Fetches.after, History.perform, isLive_ended]
        simp

theorem IsOver.isLive_foldl {f : Fetches} {t : Ticket} (h : f.IsOver t) (ops : List Op) :
    (ops.foldl Fetches.after f).isLive t = true ↔ f.isLive t = true ∧ Op.clear ∉ ops := by
  induction ops generalizing f with
  | nil => simp
  | cons op rest ih =>
      obtain ⟨hOver, hLive⟩ := h.after op
      rw [List.foldl_cons, ih hOver, hLive, List.mem_cons, not_or, and_assoc, ne_comm]

/-- When a later ticket of its widget is issued, a ticket is over. -/
theorem History.IsSound.isOver_start {h : History} (hSound : h.IsSound) {t : Ticket}
    (ht : t ∈ h.issued) : (h.fetches.start t.widget).2.IsOver t where
  issued := Nat.le_succ_of_le (hSound.generation_le ht)
  notPending := by
    intro widget hPending
    simp only [start, Table.lookup_set] at hPending
    split at hPending
    · have hNewest := Option.some.inj hPending
      have hIssued := hSound.generation_le ht
      omega
    · next hOther => exact hOther (hSound.widget_of_pending ht hPending)

/-- A live ticket whose fetch has not ended is the one under way for its widget. -/
theorem pending_of_isLive (ops : List Op) {t : Ticket} (ht : t ∈ (History.of ops).issued)
    (hLive : (History.of ops).fetches.isLive t = true) (hEnded : Op.ended t ∉ ops) :
    (History.of ops).fetches.pending.lookup t.widget = some t.generation := by
  induction ops using List.reverseRecOn with
  | nil => cases ht
  | append_singleton ops op ih =>
      have hSound := History.of_isSound ops
      obtain ⟨hEarlier, hLast⟩ : Op.ended t ∉ ops ∧ Op.ended t ≠ op := by simpa using hEnded
      rw [History.of_append, List.foldl_cons, List.foldl_nil] at ht hLive ⊢
      cases op with
      | start widget =>
          simp only [History.perform] at ht hLive ⊢
          rcases List.mem_append.1 ht with hOld | hNew
          · obtain ⟨hBefore, hOther⟩ := isLive_start.1 hLive
            have hPending := ih hOld hBefore hEarlier
            have hWidget : t.widget ≠ widget := fun h => hOther (h ▸ hPending)
            simpa [start, Table.lookup_set, hWidget] using hPending
          · cases List.mem_singleton.1 hNew
            simp [start, Table.lookup_set]
      | cancel widget =>
          simp only [History.perform] at ht hLive ⊢
          obtain ⟨hBefore, hOther⟩ := isLive_cancel.1 hLive
          have hPending := ih ht hBefore hEarlier
          have hWidget : t.widget ≠ widget := fun h => hOther (h ▸ hPending)
          rw [lookup_pending_cancel, if_neg hWidget, hPending]
      | clear =>
          simp only [History.perform] at ht hLive
          rw [isLive_clear (hSound.generation_le ht)] at hLive
          cases hLive
      | ended ended =>
          simp only [History.perform, isLive_ended] at ht hLive ⊢
          have hPending := ih ht hLive hEarlier
          rw [lookup_pending_ended, if_neg, hPending]
          rintro ⟨hWidget, hCurrent⟩
          rw [hCurrent] at hPending
          have hSame : t = ended := by
            obtain ⟨widget, generation⟩ := t
            obtain ⟨other, later⟩ := ended
            cases hWidget
            cases hPending
            rfl
          exact hLast (hSame ▸ rfl)

/-- Once a later fetch of its widget has been started, a ticket is live exactly if its fetch had
ended by then, its ticket being live, and not everything has been cancelled since. So a fetch that
has not ended is superseded for good and its result is never applied, and of the tickets of a
widget whose fetches have not ended at most one is live. -/
theorem live_tickets (ops : List Op) :
    (∀ before later, ∀ t ∈ (History.of before).issued, ops = before ++ .start t.widget :: later →
      ((History.of ops).fetches.isLive t = true ↔
        (History.of before).fetches.isLive t = true ∧
          (History.of before).fetches.pending.lookup t.widget ≠ some t.generation ∧
          Op.clear ∉ later) ∧
      (Op.ended t ∉ before → ∀ (α : Type) (apply : α → α) (state : α),
        (History.of ops).fetches.commit t apply state = (false, state))) ∧
    ∀ t ∈ (History.of ops).issued, ∀ t' ∈ (History.of ops).issued, t.widget = t'.widget →
      (History.of ops).fetches.isLive t = true → (History.of ops).fetches.isLive t' = true →
      Op.ended t ∉ ops → Op.ended t' ∉ ops → t = t' := by
  refine ⟨?_, ?_⟩
  · rintro before later t ht rfl
    have hOver := (History.of_isSound before).isOver_start ht
    have hLive : (History.of (before ++ .start t.widget :: later)).fetches.isLive t = true ↔
        (History.of before).fetches.isLive t = true ∧
          (History.of before).fetches.pending.lookup t.widget ≠ some t.generation ∧
          Op.clear ∉ later := by
      rw [History.of_append, List.foldl_cons, fetches_foldl, fetches_perform]
      rw [show (History.of before).fetches.after (.start t.widget) =
        ((History.of before).fetches.start t.widget).2 from rfl, hOver.isLive_foldl, isLive_start,
        and_assoc]
    refine ⟨hLive, ?_⟩
    intro hEnded α apply state
    rw [commit, if_neg]
    intro hStill
    obtain ⟨hBefore, hOther, -⟩ := hLive.1 hStill
    exact hOther (pending_of_isLive before ht hBefore hEnded)
  · intro t ht t' ht' hWidget hLive hLive' hEnded hEnded'
    have hPending := pending_of_isLive ops ht hLive hEnded
    have hPending' := pending_of_isLive ops ht' hLive' hEnded'
    rw [hWidget, hPending'] at hPending
    exact (History.of_isSound ops).eq_of_generation ht ht' (Option.some.inj hPending).symm

/-- A fetch that has ended before the next one of its widget starts keeps a live ticket, beside the
new one; without its end it is superseded. -/
theorem ended_stays_live :
    (History.of [.start "tile", .ended ⟨"tile", 1⟩, .start "tile"]).fetches.isLive ⟨"tile", 1⟩ =
        true ∧
      (History.of [.start "tile", .ended ⟨"tile", 1⟩, .start "tile"]).fetches.isLive ⟨"tile", 2⟩ =
        true ∧
      (History.of [.start "tile", .start "tile"]).fetches.isLive ⟨"tile", 1⟩ = false ∧
      (History.of [.start "tile", .start "tile"]).fetches.commit ⟨"tile", 1⟩ (· + 1) 0 =
        (false, 0) := by
  refine ⟨?_, by decide, ?_, ?_⟩
  · exact ((live_tickets _).1 [.start "tile", .ended ⟨"tile", 1⟩] [] ⟨"tile", 1⟩ (by decide)
      rfl).1.2 (by decide)
  · exact Bool.eq_false_iff.2 fun hLive =>
      absurd (((live_tickets _).1 [.start "tile"] [] ⟨"tile", 1⟩ (by decide) rfl).1.1 hLive)
        (by decide)
  · exact ((live_tickets _).1 [.start "tile"] [] ⟨"tile", 1⟩ (by decide) rfl).2 (by decide) Nat
      (· + 1) 0

end Fetches
end NoteBoard
