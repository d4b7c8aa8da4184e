import Mathlib.Data.Set.Card
import NoteBoard.Proofs.Board.Tickets

/-! Which fetches are under way, and which tickets live, told from the operations alone. A ticket
is under way, and lives, until something closes it. If that is the end of its fetch it lives on,
and nothing but a cancellation of everything can end that; otherwise it is dead for good. -/
namespace NoteBoard
namespace Fetches

/-- Whether an operation ends that a ticket is under way: a new fetch for its widget, a
cancellation, or the end of its fetch. -/
def Op.Closes (t : Ticket) (op : Op) : Prop :=
  op = .start t.widget ∨ op = .cancel t.widget ∨ op = .clear ∨ op = .ended t

/-- What one operation does to the ticket that is under way for a widget. -/
theorem lookup_pending_after (f : Fetches) (op : Op) (t : Ticket) :
    (f.after op).pending.lookup t.widget = some t.generation ↔
      ((f.start t.widget).1 = t ∧ op = .start t.widget) ∨
        (f.pending.lookup t.widget = some t.generation ∧ ¬ op.Closes t) := by
  obtain ⟨name, generation⟩ := t
  cases op with
  | start widget =>
      simp only [after, History.perform, start, Table.lookup_set, Op.Closes]
      by_cases h : name = widget
      · simp [h]
      · simp [h, Ne.symm h]
  | cancel widget =>
      simp only [after, History.perform, lookup_pending_cancel, Op.Closes]
      by_cases h : name = widget
      · simp [h]
      · simp [h, Ne.symm h]
  | clear => simp [after, History.perform, clear, Op.Closes]
  | ended ended =>
      simp only [after, History.perform, lookup_pending_ended, Op.Closes, reduceCtorEq, and_false,
        false_or, Op.ended.injEq]
      constructor
      · intro hPending
        split at hPending
        · cases hPending
        · next hOther =>
          refine ⟨hPending, ?_⟩
          rintro rfl
          exact hOther ⟨rfl, hPending⟩
      · rintro ⟨hPending, hOther⟩
        rw [if_neg, hPending]
        rintro ⟨rfl, hCurrent⟩
        rw [hPending] at hCurrent
        cases hCurrent
        exact hOther rfl

theorem IsOver.foldl {f : Fetches} {t : Ticket} (h : f.IsOver t) (ops : List Op) :
    (ops.foldl Fetches.after f).IsOver t := by
  induction ops generalizing f with
  | nil => exact h
  | cons op rest ih => exact ih (h.after op).1

namespace History

variable {h : History}

/-- A ticket that is under way is over once it is closed. -/
theorem IsSound.isOver_of_closes (hSound : h.IsSound) {t : Ticket}
    (hPending : h.fetches.pending.lookup t.widget = some t.generation) {op : Op}
    (hCloses : op.Closes t) : (h.fetches.after op).IsOver t := by
  have ht : t ∈ h.issued := hSound.pending _ _ hPending
  have hAfter := hSound.perform op
  have hStill : t ∈ (h.perform op).issued := by
    cases op with
    | start widget => exact List.mem_append_left _ ht
    | _ => exact ht
  refine ⟨fetches_perform h op ▸ hAfter.generation_le hStill, ?_⟩
  intro widget hNow
  rw [← fetches_perform] at hNow
  obtain rfl := hAfter.widget_of_pending hStill hNow
  rw [fetches_perform] at hNow
  rcases (lookup_pending_after h.fetches op t).1 hNow with ⟨hNew, -⟩ | ⟨-, hOpen⟩
  · have hOld := hSound.generation_le ht
    rw [← hNew] at hOld
    exact absurd hOld (Nat.not_succ_le_self _)
  · exact hOpen hCloses

/-- A ticket that is under way stays so while nothing closes it, and not longer. -/
theorem IsSound.lookup_pending_foldl (hSound : h.IsSound) {t : Ticket}
    (hPending : h.fetches.pending.lookup t.widget = some t.generation) (ops : List Op) :
    (ops.foldl after h.fetches).pending.lookup t.widget = some t.generation ↔
      ∀ op ∈ ops, ¬ op.Closes t := by
  induction ops generalizing h with
  | nil => simp [hPending]
  | cons op rest ih =>
      rw [List.foldl_cons, List.forall_mem_cons]
      by_cases hCloses : op.Closes t
      · have hOver := (hSound.isOver_of_closes hPending hCloses).foldl rest
        simp [hCloses, hOver.notPending]
      · have hNext := (lookup_pending_after h.fetches op t).2 (Or.inr ⟨hPending, hCloses⟩)
        rw [← fetches_perform] at hNext ⊢
        rw [ih (hSound.perform op) hNext]
        simp [hCloses]

/-- A live ticket stays live unless it is closed. -/
theorem IsSound.isLive_after (hSound : h.IsSound) {t : Ticket} (ht : t ∈ h.issued)
    (hLive : h.fetches.isLive t = true) {op : Op} (hOpen : ¬ op.Closes t) :
    (h.fetches.after op).isLive t = true := by
  simp only [Op.Closes, not_or] at hOpen
  obtain ⟨hStart, hCancel, hClear, -⟩ := hOpen
  cases op with
  | start widget =>
      refine isLive_start.2 ⟨hLive, fun hPending => hStart ?_⟩
      rw [hSound.widget_of_pending ht hPending]
  | cancel widget =>
      refine isLive_cancel.2 ⟨hLive, fun hPending => hCancel ?_⟩
      rw [hSound.widget_of_pending ht hPending]
  | clear => exact absurd rfl hClear
  | ended ended => rwa [after, History.perform, isLive_ended]

/-- A ticket that is under way lives on until everything is cancelled, or, before its own fetch
has ended, its widget is cancelled or gets a new fetch. -/
theorem IsSound.isLive_foldl (hSound : h.IsSound) {t : Ticket}
    (hPending : h.fetches.pending.lookup t.widget = some t.generation)
    (hLive : h.fetches.isLive t = true) (ops : List Op) :
    (ops.foldl after h.fetches).isLive t = true ↔
      Op.clear ∉ ops ∧ ∀ op ∈ ops.takeWhile (· ≠ .ended t),
        op ≠ .start t.widget ∧ op ≠ .cancel t.widget := by
  induction ops generalizing h with
  | nil => simp [hLive]
  | cons op rest ih =>
      rw [List.foldl_cons]
      by_cases hCloses : op.Closes t
      · rw [(hSound.isOver_of_closes hPending hCloses).isLive_foldl]
        rcases hCloses with rfl | rfl | rfl | rfl
        · simp [after, History.perform, isLive_start, hPending]
        · simp [after, History.perform, isLive_cancel, hPending]
        · have hIssued := hSound.generation_le (hSound.pending _ _ hPending)
          simp [after, History.perform, isLive_clear hIssued]
        · simp [after, History.perform, isLive_ended, hLive]
      · have ht := hSound.pending _ _ hPending
        have hNext := (lookup_pending_after h.fetches op t).2 (Or.inr ⟨hPending, hCloses⟩)
        have hLiveNext := hSound.isLive_after ht hLive hCloses
        rw [← fetches_perform] at hNext hLiveNext ⊢
        rw [ih (hSound.perform op) hNext hLiveNext]
        simp only [Op.Closes, not_or] at hCloses
        obtain ⟨hStart, hCancel, hClear, hEnded⟩ := hCloses
        simp [hStart, hCancel, Ne.symm hClear, hEnded]

/-- A ticket has been issued by a start of its widget. -/
theorem exists_start_of_mem_issued {ops : List Op} {t : Ticket} (ht : t ∈ (of ops).issued) :
    ∃ before later, ops = before ++ .start t.widget :: later ∧
      ((of before).fetches.start t.widget).1 = t := by
  induction ops using List.reverseRecOn with
  | nil => cases ht
  | append_singleton ops op ih =>
      have hBefore : t ∈ (of ops).issued → ∃ before later,
          ops ++ [op] = before ++ .start t.widget :: later ∧
            ((of before).fetches.start t.widget).1 = t := by
        intro hOld
        obtain ⟨before, later, hOps, hIssued⟩ := ih hOld
        exact ⟨before, later ++ [op], by rw [hOps, List.append_assoc, List.cons_append], hIssued⟩
      rw [of_append, List.foldl_cons, List.foldl_nil] at ht
      cases op with
      | start widget =>
          rcases List.mem_append.1 ht with hOld | hNew
          · exact hBefore hOld
          · cases List.mem_singleton.1 hNew
            exact ⟨ops, [], rfl, rfl⟩
      | _ => exact hBefore ht

/-- Whatever has been cancelled was issued before. -/
structure IsPast (f : Fetches) : Prop where
  dropped : f.dropped ≤ f.issued
  cancelled : ∀ generation ∈ f.cancelled, generation ≤ f.issued

/-- Only tickets that are under way are cancelled, and these have been issued. -/
theorem IsSound.isPast_after (hSound : h.IsSound) (hPast : IsPast h.fetches) (op : Op) :
    IsPast (h.fetches.after op) := by
  have hStale (widget : String) (generation : Nat)
      (hPending : h.fetches.pending.lookup widget = some generation) :
      generation ≤ h.fetches.issued :=
    hSound.generation_le (hSound.pending widget generation hPending)
  cases op with
  | start widget =>
      refine ⟨Nat.le_succ_of_le hPast.dropped, ?_⟩
      intro generation hMem
      rcases List.mem_append.1 hMem with hMem | hMem
      · exact Nat.le_succ_of_le (hStale widget generation (Option.mem_toList.1 hMem))
      · exact Nat.le_succ_of_le (hPast.cancelled generation hMem)
  | cancel widget =>
      simp only [after, History.perform, Fetches.cancel]
      split
      · next generation hPending =>
        exact ⟨hPast.dropped, List.forall_mem_cons.2 ⟨hStale widget generation hPending,
          hPast.cancelled⟩⟩
      · exact hPast
  | clear => exact ⟨Nat.le_refl _, hPast.cancelled⟩
  | ended t =>
      simp only [after, History.perform, Fetches.ended]
      split
      · exact ⟨hPast.dropped, hPast.cancelled⟩
      · exact hPast

theorem of_isPast (ops : List Op) : IsPast (of ops).fetches := by
  induction ops using List.reverseRecOn with
  | nil => exact ⟨Nat.le_refl 0, by simp [of, none]⟩
  | append_singleton ops op ih =>
      rw [of_append, fetches_foldl]
      exact (of_isSound ops).isPast_after ih op

/-- A new ticket is live. -/
theorem isLive_start_new (ops : List Op) (widget : String) :
    ((of ops).fetches.start widget).2.isLive ((of ops).fetches.start widget).1 = true := by
  have hPast := of_isPast ops
  have hSound := of_isSound ops
  refine isLive_start.2 ⟨isLive_iff.2 ⟨Nat.lt_succ_of_le hPast.dropped, ?_⟩, ?_⟩
  · intro hCancelled
    exact absurd (hPast.cancelled _ hCancelled) (Nat.not_succ_le_self _)
  · intro hPending
    exact absurd (hSound.generation_le (hSound.pending widget _ hPending))
      (Nat.not_succ_le_self _)

end History

/-- A ticket is under way exactly if nothing has closed it since it was issued. -/
theorem lookup_pending_since (before later : List Op) {t : Ticket}
    (hIssued : ((History.of before).fetches.start t.widget).1 = t) :
    (History.of (before ++ .start t.widget :: later)).fetches.pending.lookup t.widget =
        some t.generation ↔ ∀ op ∈ later, ¬ op.Closes t := by
  have hSound := (History.of_isSound before).perform (.start t.widget)
  rw [History.of_append, List.foldl_cons, fetches_foldl]
  refine hSound.lookup_pending_foldl ?_ later
  rw [fetches_perform]
  exact (lookup_pending_after _ _ t).2 (Or.inl ⟨hIssued, rfl⟩)

/-- A ticket is live exactly if since it was issued not everything has been cancelled, and its
widget was neither cancelled nor fetched again before its fetch had ended. -/
theorem isLive_since (before later : List Op) {t : Ticket}
    (hIssued : ((History.of before).fetches.start t.widget).1 = t) :
    (History.of (before ++ .start t.widget :: later)).fetches.isLive t = true ↔
      Op.clear ∉ later ∧ ∀ op ∈ later.takeWhile (· ≠ .ended t),
        op ≠ .start t.widget ∧ op ≠ .cancel t.widget := by
  have hSound := (History.of_isSound before).perform (.start t.widget)
  rw [History.of_append, List.foldl_cons, fetches_foldl]
  refine hSound.isLive_foldl ?_ ?_ later
  · rw [fetches_perform]
    exact (lookup_pending_after _ _ t).2 (Or.inl ⟨hIssued, rfl⟩)
  · have hNew := History.isLive_start_new before t.widget
    rwa [hIssued] at hNew

theorem nodup_names_pending_after {f : Fetches} (h : f.pending.names.Nodup) (op : Op) :
    (f.after op).pending.names.Nodup := by
  cases op with
  | start widget => exact Table.nodup_names_set h widget _
  | cancel widget =>
      simp only [after, History.perform, Fetches.cancel]
      split
      · exact Table.nodup_names_erase h widget
      · exact h
  | clear => exact List.nodup_nil
  | ended t =>
      simp only [after, History.perform, Fetches.ended]
      split
      · exact Table.nodup_names_erase h t.widget
      · exact h

theorem nodup_names_pending (ops : List Op) : (History.of ops).fetches.pending.names.Nodup := by
  induction ops using List.reverseRecOn with
  | nil => exact List.nodup_nil
  | append_singleton ops op ih =>
      rw [History.of_append, fetches_foldl]
      exact nodup_names_pending_after ih op

/-- As many fetches are counted as there are widgets with one under way. -/
theorem encard_underWay (ops : List Op) :
    {widget | (History.of ops).fetches.isUnderWay widget = true}.encard =
      (History.of ops).fetches.countUnderWay := by
  have hNames : {widget | (History.of ops).fetches.isUnderWay widget = true} =
      ((History.of ops).fetches.pending.names.toFinset : Set String) := by
    ext widget
    rw [List.coe_toFinset]
    exact (Table.mem_names_iff _ widget).symm
  rw [hNames, Set.encard_coe_eq_coe_finsetCard,
    List.toFinset_card_of_nodup (nodup_names_pending ops), Table.names, List.length_map]
  rfl

/-- The last ticket of its widget, and the operations since it was issued. -/
def IsLatest (ops : List Op) (t : Ticket) (later : List Op) : Prop :=
  ∃ before, ops = before ++ .start t.widget :: later ∧
    ((History.of before).fetches.start t.widget).1 = t ∧ .start t.widget ∉ later

/-- A widget has one last ticket. -/
theorem IsLatest.unique {ops : List Op} {t t' : Ticket} {later later' : List Op}
    (h : IsLatest ops t later) (h' : IsLatest ops t' later') (hWidget : t.widget = t'.widget) :
    t = t' := by
  obtain ⟨before, hOps, hIssued, hLast⟩ := h
  obtain ⟨before', hOps', hIssued', hLast'⟩ := h'
  rw [← hWidget] at hOps' hIssued' hLast'
  have hSame : before ++ .start t.widget :: later = before' ++ .start t.widget :: later' :=
    hOps.symm.trans hOps'
  -- Of two suffixes that begin with the start, the shorter one begins where the longer one does.
  have hLater : Op.start t.widget :: later = .start t.widget :: later' := by
    rcases List.suffix_or_suffix_of_suffix ⟨before, rfl⟩ ⟨before', hSame.symm⟩ with
      hSuffix | hSuffix
    · rcases List.suffix_cons_iff.1 hSuffix with hEq | hInside
      · exact hEq
      · exact absurd (hInside.subset List.mem_cons_self) hLast'
    · rcases List.suffix_cons_iff.1 hSuffix with hEq | hInside
      · exact hEq.symm
      · exact absurd (hInside.subset List.mem_cons_self) hLast
  rw [hLater] at hSame
  rw [← hIssued, ← hIssued', List.append_cancel_right hSame]

/-- What is under way is the last ticket of its widget, if that has been neither cancelled nor
ended. -/
theorem lookup_pending_iff_isLatest (ops : List Op) (t : Ticket) :
    (History.of ops).fetches.pending.lookup t.widget = some t.generation ↔
      ∃ later, IsLatest ops t later ∧
        .cancel t.widget ∉ later ∧ .clear ∉ later ∧ .ended t ∉ later := by
  have hOpen (later : List Op) : (∀ op ∈ later, ¬ op.Closes t) ↔
      .start t.widget ∉ later ∧ .cancel t.widget ∉ later ∧ .clear ∉ later ∧ .ended t ∉ later := by
    simp only [Op.Closes, not_or]
    grind
  constructor
  · intro hPending
    have ht := (History.of_isSound ops).pending _ _ hPending
    obtain ⟨before, later, rfl, hIssued⟩ := History.exists_start_of_mem_issued ht
    have hSince := (lookup_pending_since before later hIssued).1 hPending
    obtain ⟨hStart, hOthers⟩ := (hOpen later).1 hSince
    exact ⟨later, ⟨before, rfl, hIssued, hStart⟩, hOthers⟩
  · rintro ⟨later, ⟨before, rfl, hIssued, hStart⟩, hOthers⟩
    exact (lookup_pending_since before later hIssued).2 ((hOpen later).2 ⟨hStart, hOthers⟩)

/-- A widget has a fetch under way exactly if its last ticket has been neither cancelled nor
ended. -/
theorem isUnderWay_iff_isLatest (ops : List Op) (widget : String) :
    (History.of ops).fetches.isUnderWay widget = true ↔
      ∃ t later, t.widget = widget ∧ IsLatest ops t later ∧
        .cancel widget ∉ later ∧ .clear ∉ later ∧ .ended t ∉ later := by
  rw [isUnderWay, Option.isSome_iff_exists]
  constructor
  · rintro ⟨generation, hPending⟩
    obtain ⟨later, hLater⟩ := (lookup_pending_iff_isLatest ops ⟨widget, generation⟩).1 hPending
    exact ⟨⟨widget, generation⟩, later, rfl, hLater⟩
  · rintro ⟨t, later, rfl, hLater⟩
    exact ⟨t.generation, (lookup_pending_iff_isLatest ops t).2 ⟨later, hLater⟩⟩

/-- The last ticket of a widget with a fetch under way is live. -/
theorem IsLatest.isLive {ops : List Op} {t : Ticket} {later : List Op} (h : IsLatest ops t later)
    (hPending : (History.of ops).fetches.isUnderWay t.widget = true) :
    (History.of ops).fetches.isLive t = true := by
  obtain ⟨t', later', hWidget, h', hCancel, hClear, -⟩ := (isUnderWay_iff_isLatest ops _).1 hPending
  obtain rfl := h'.unique h hWidget
  obtain ⟨before, rfl, hIssued, hStart⟩ := h'
  refine (isLive_since before later' hIssued).2 ⟨hClear, fun op hOp => ?_⟩
  have hMem := (List.takeWhile_sublist _).subset hOp
  exact ⟨fun h => hStart (h ▸ hMem), fun h => hCancel (h ▸ hMem)⟩

/-- The end of a fetch that is not the one under way for its widget changes nothing. -/
theorem fetches_ended_of_stale {ops : List Op} {t : Ticket}
    (hStale : ¬ ((∃ later, IsLatest ops t later) ∧
      (History.of ops).fetches.isUnderWay t.widget = true)) :
    (History.of (ops ++ [.ended t])).fetches = (History.of ops).fetches := by
  rw [History.of_append, fetches_foldl]
  refine if_neg fun hPending => hStale ?_
  obtain ⟨later, hLatest, -⟩ := (lookup_pending_iff_isLatest ops t).1 hPending
  exact ⟨⟨later, hLatest⟩, by rw [isUnderWay, hPending, Option.isSome_some]⟩

/-- Once everything is cancelled, the tickets issued before are dead for good. -/
theorem isLive_clear_append {ops : List Op} {t : Ticket} (ht : t ∈ (History.of ops).issued)
    (later : List Op) : (History.of (ops ++ .clear :: later)).fetches.isLive t = false := by
  have hIssued := (History.of_isSound ops).generation_le ht
  have hOver : (History.of ops).fetches.clear.IsOver t := ⟨hIssued, nofun⟩
  have hDead := isLive_clear hIssued
  rw [History.of_append, List.foldl_cons, fetches_foldl, Bool.eq_false_iff]
  intro hLive
  rw [(hOver.isLive_foldl later).1 hLive |>.1] at hDead
  cases hDead

/-- Whatever the order in which fetches are started, ended and cancelled: tickets are numbered
upwards; a widget has a fetch under way exactly if its last ticket has been neither cancelled nor
ended since it was issued, and then that ticket is live; the end of any other ticket changes
nothing; when everything is cancelled, all tickets are dead for good and nothing is under way; and
as many fetches are counted as there are widgets with one under way. -/
theorem latest_tickets (ops : List Op) :
    ((History.of ops).issued.map Ticket.generation).Pairwise (· < ·) ∧
    (∀ widget, (History.of ops).fetches.isUnderWay widget = true ↔
      ∃ t later, t.widget = widget ∧ IsLatest ops t later ∧
        .cancel widget ∉ later ∧ .clear ∉ later ∧ .ended t ∉ later) ∧
    (∀ t later, IsLatest ops t later → (History.of ops).fetches.isUnderWay t.widget = true →
      (History.of ops).fetches.isLive t = true) ∧
    (∀ t, ¬ ((∃ later, IsLatest ops t later) ∧
        (History.of ops).fetches.isUnderWay t.widget = true) →
      (∀ widget, (History.of (ops ++ [.ended t])).fetches.isUnderWay widget =
        (History.of ops).fetches.isUnderWay widget) ∧
      ∀ other, (History.of (ops ++ [.ended t])).fetches.isLive other =
        (History.of ops).fetches.isLive other) ∧
    ((∀ t ∈ (History.of ops).issued, ∀ later,
        (History.of (ops ++ .clear :: later)).fetches.isLive t = false) ∧
      ∀ widget, (History.of (ops ++ [.clear])).fetches.isUnderWay widget = false) ∧
    {widget | (History.of ops).fetches.isUnderWay widget = true}.encard =
      (History.of ops).fetches.countUnderWay := by
  refine ⟨?_, isUnderWay_iff_isLatest ops, fun t later h => h.isLive, ?_, ⟨?_, ?_⟩,
    encard_underWay ops⟩
  · rw [(History.of_isSound ops).generations]
    exact List.pairwise_lt_range'
  · intro t hStale
    rw [fetches_ended_of_stale hStale]
    exact ⟨fun _ => rfl, fun _ => rfl⟩
  · intro t ht later
    exact isLive_clear_append ht later
  · intro widget
    rw [History.of_append]
    rfl

/-- Two widgets are fetched, the first of them again after its fetch has ended, and the second is
cancelled. -/
def twoWidgets : List Op :=
  [.start "tile", .start "list", .ended ⟨"tile", 1⟩, .start "tile", .cancel "list"]

theorem twoWidgets_latest :
    IsLatest twoWidgets ⟨"tile", 3⟩ [.cancel "list"] ∧
      (History.of twoWidgets).fetches.isLive ⟨"tile", 3⟩ = true ∧
      (History.of twoWidgets).fetches.isUnderWay "list" = false ∧
      (History.of (twoWidgets ++ [.ended ⟨"tile", 1⟩])).fetches.isUnderWay "tile" = true ∧
      (⟨"tile", 1⟩ : Ticket) ∈ (History.of twoWidgets).issued ∧
      (History.of (twoWidgets ++ [.clear, .start "tile"])).fetches.isLive ⟨"tile", 1⟩ = false := by
  obtain ⟨-, hUnderWay, hLive, hEnded, ⟨hClear, -⟩, -⟩ := latest_tickets twoWidgets
  have hLatest : IsLatest twoWidgets ⟨"tile", 3⟩ [.cancel "list"] :=
    ⟨[.start "tile", .start "list", .ended ⟨"tile", 1⟩], rfl, rfl, by decide⟩
  have hPending : (History.of twoWidgets).fetches.isUnderWay "tile" = true :=
    (hUnderWay "tile").2 ⟨⟨"tile", 3⟩, [.cancel "list"], rfl, hLatest, by decide, by decide,
      by decide⟩
  have hOld : ¬ ((∃ later, IsLatest twoWidgets ⟨"tile", 1⟩ later) ∧
      (History.of twoWidgets).fetches.isUnderWay "tile" = true) := by
    rintro ⟨⟨later, hFirst⟩, -⟩
    exact absurd (hFirst.unique hLatest rfl) (by decide)
  refine ⟨hLatest, hLive _ _ hLatest hPending, by decide, ?_, by decide, ?_⟩
  · rw [(hEnded ⟨"tile", 1⟩ hOld).1 "tile", hPending]
  · exact hClear ⟨"tile", 1⟩ (by decide) [.start "tile"]

end Fetches
end NoteBoard
