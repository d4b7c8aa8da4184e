import NoteBoard.Proofs.Board.Fetched
import NoteBoard.Proofs.Layout.Edited
import NoteBoard.Proofs.Layout.Placed

/-! What a host changes of one widget of a tidy board, by adding or editing it, and what stays as it
was: the other widgets, what they show, and their fetches. -/
namespace NoteBoard
namespace Board

section Insert

variable {σ τ : Type} [LabelSource]

/-- A layout that tidying leaves alone is tidy, if its widgets have room. -/
theorem layout_isTidy {b : Board Exact σ τ} {labels : Labels}
    (hTidy : b.layout.tidy b.settings.limit b.labels = .ok (b.layout, labels))
    (hRoom : b.HasRoom) : b.layout.IsTidy :=
  (Layout.tidy_isTidy hTidy hRoom).1

variable [TimeZone] [Provider σ Exact] [LayoutKeeper τ Exact]

/-- A widget that is inserted into a tidy layout comes last, at the left of the first row below all
others, and its id is answered. Nothing else changes, whatever the size and the id of the widget
are: an id that is blank or taken is replaced, though placing pins the widget that has it. -/
theorem insert_appends {b : Board Exact σ τ} {labels : Labels}
    (hTidy : b.layout.tidy b.settings.limit b.labels = .ok (b.layout, labels))
    (hRoom : b.HasRoom) (w : Widget Exact) :
    ∃ v, (b.perform (.insert w)).1 = .id v.id ∧
      (b.perform (.insert w)).2.layout = { b.layout with widgets := b.layout.widgets ++ [v] } ∧
      v.x = 0 ∧ v.y = b.layout.nextRow ∧ v.content = w.content ∧ v.id ∉ b.layout.ids ∧
      (Text.trim w.id ≠ "" → w.id ∉ b.layout.ids → v.id = w.id) := by
  have hIsTidy := layout_isTidy hTidy hRoom
  obtain ⟨v, labels', hAppend, hv⟩ := hIsTidy.tidy_append
    (w := { w with x := 0, y := b.layout.nextRow }) rfl rfl b.settings.limit b.labels
  rw [← hIsTidy.place_eq w b.settings.limit] at hAppend
  rcases b.insert_cases w with ⟨t, labels'', hPlaced, hInsert⟩ | ⟨e, hPlaced, -⟩
  · rw [hAppend] at hPlaced
    cases hPlaced
    have hReply : b.perform (.insert w) = (.id v.id, { b.abandonGesture.2 with
        labels := labels' }.adopt { b.layout with widgets := b.layout.widgets ++ [v] }) := by
      rw [perform, hInsert]
      simp [reply]
    rw [hReply]
    exact ⟨v, rfl, rfl, hv⟩
  · rw [hAppend] at hPlaced
    cases hPlaced

end Insert

/-- Two widgets side by side, and a third one below them. -/
def threeWidgets : Layout Exact where
  columns := 6
  rowHeight := 80
  gap := 16
  unit := .cells
  widgets := [.of "a" (.new .stats) ⟨0, 0, 3, 2⟩, .of "b" (.new .taskList) ⟨3, 0, 3, 3⟩,
    .of "c" (.new .pieChart) ⟨0, 3, 6, 4⟩]

-- The host of the boards below keeps universal time.
attribute [local instance] TimeZone.universal

def fetchingCalls : List (Call Exact) :=
  [.load threeWidgets, .startFetch "a", .startFetch "b", .startFetch "c"]

/-- A board that shows them, while all three are fetched. -/
def fetchingBoard : Except (Error Exact) (Board Exact (NoProvider Exact) (NoKeeper Exact)) :=
  (create .defaults ⟨⟩ ⟨⟩ ⟨0⟩).map fun b => b.run fetchingCalls

/-- This board is reached, and tidying changes nothing on it. -/
theorem exists_fetchingBoard : ∃ b labels, fetchingBoard = .ok b ∧ Reached (fun _ => True) b ∧
    b.layout = threeWidgets ∧ b.layout.tidy b.settings.limit b.labels = .ok (b.layout, labels) ∧
    b.HasRoom ∧ b.fetches = ⟨3, 0, [], [("a", 1), ("b", 2), ("c", 3)]⟩ := by
  have hRun : (match fetchingBoard with
      | .ok b => decide (b.layout = threeWidgets ∧
          (b.layout.tidy b.settings.limit b.labels).toOption.map Prod.fst = some b.layout ∧
          b.layout.widgets.length ≤ b.settings.limit ∧
          b.fetches = ⟨3, 0, [], [("a", 1), ("b", 2), ("c", 3)]⟩)
      | .error _ => false) = true := by decide +kernel
  cases hNew : create (.defaults : Settings Exact) (⟨⟩ : NoProvider Exact)
      (⟨⟩ : NoKeeper Exact) ⟨0⟩ with
  | error e =>
      rw [fetchingBoard, hNew] at hRun
      cases hRun
  | ok new =>
      have hBoard : fetchingBoard = .ok (new.run fetchingCalls) := by
        rw [fetchingBoard, hNew]
        rfl
      have hNewReached : Reached (fun _ => True) new := .created hNew trivial
      have hReached : Reached (fun _ => True) (new.run fetchingCalls) :=
        hNewReached.run fun _ _ => trivial
      rw [hBoard] at hRun
      generalize new.run fetchingCalls = b at hRun hBoard hReached
      obtain ⟨hLayout, hTidy, hRoom, hFetches⟩ := of_decide_eq_true hRun
      obtain ⟨labels, hSame⟩ := Layout.exists_labels_of_tidy hTidy
      exact ⟨b, labels, hBoard, hReached, hLayout, hSame, hRoom, hFetches⟩

/-- A widget without a size, under an id that is taken on that board. -/
def shapeless : Widget Exact :=
  .of "a" (.new .stats) ⟨5, .undefined, .infinite false, .undefined⟩

/-- It gets another id and a place below all others, and the widgets that were there stay. -/
theorem fetchingBoard_insert_appends : ∃ b v, fetchingBoard = .ok b ∧
    b.layout = threeWidgets ∧ (b.perform (.insert shapeless)).1 = .id v.id ∧
    (b.perform (.insert shapeless)).2.layout.widgets = threeWidgets.widgets ++ [v] ∧
    v.x = 0 ∧ v.y = 7 ∧ v.id ∉ ["a", "b", "c"] := by
  obtain ⟨b, labels, hBoard, -, hLayout, hTidy, hRoom, -⟩ := exists_fetchingBoard
  obtain ⟨v, hReply, hAppended, hx, hy, -, hFree, -⟩ := insert_appends hTidy hRoom shapeless
  refine ⟨b, v, hBoard, hLayout, hReply, ?_, hx, ?_, ?_⟩
  · rw [hAppended, hLayout]
  · rw [hy, hLayout]
    decide +kernel
  · rw [hLayout] at hFree
    exact hFree

section Update

variable {σ τ : Type} [TimeZone] [LabelSource] [Provider σ Exact] [LayoutKeeper τ Exact]

/-- An edit of a widget of a tidy layout reaches no other widget, whatever it makes of the widget.
All keep their ids and their order, the one edited has what the edit made of its migrated form, and
the others are at most pushed down. What they show and their fetches stay; what the edited one
shows goes, and its fetch is cancelled. The layout is tidy again. -/
theorem Reached.update_edits {Admitted : Board Exact σ τ → Prop} {b : Board Exact σ τ}
    (hReached : Reached Admitted b) {labels : Labels}
    (hTidy : b.layout.tidy b.settings.limit b.labels = .ok (b.layout, labels)) (hRoom : b.HasRoom)
    {id : String} {w : Widget Exact} (hFind : b.layout.find? id = some w)
    (edit : Widget Exact → Widget Exact) :
    ∃ b', b.perform (.update id edit) = (.done, b') ∧
      b.layout.Edited { edit w.upgrade with id := id } b'.layout ∧
      (∀ limit labels', b'.layout.tidy limit labels' = .ok (b'.layout, labels')) ∧
      (∀ other, b'.data.lookup other = if other = id then none else b.data.lookup other) ∧
      (∀ other, b'.fetches.pending.lookup other =
        if other = id then none else b.fetches.pending.lookup other) ∧
      ∀ t : Ticket, b.fetches.pending.lookup t.widget = some t.generation →
        (b'.fetches.isLive t = true ↔ b.fetches.isLive t = true ∧ t.widget ≠ id) := by
  have hIsTidy := layout_isTidy hTidy hRoom
  have hLimit : b.layout.widgets.length ≤ b.settings.limit + 1 := Nat.le_succ_of_le hRoom
  obtain ⟨t, hEdit, hEdited⟩ := hIsTidy.exists_edited hFind
    (f := fun w => { edit w.upgrade with id := id }) (fun _ => rfl) hLimit b.labels
  have hUpdate : b.perform (.update id edit) = (.done, { b.abandonGesture.2 with
      fetches := (b.fetches.cancel id).2
      data := b.data.erase id }.adopt t) := by
    simp only [perform, update, widget, hFind, hEdit]
    rfl
  refine ⟨_, hUpdate, hEdited, Layout.tidy_of_isTidy hEdited.tidy, Table.lookup_erase b.data id,
    Fetches.lookup_pending_cancel b.fetches id, fun ticket hPending => ?_⟩
  change (b.fetches.cancel id).2.isLive ticket = true ↔ _
  -- No other widget has a fetch of the same generation under way.
  obtain ⟨ops, hOps⟩ := hReached.exists_history
  have hSound := Fetches.History.of_isSound ops
  have hSame : b.fetches.pending.lookup id = some ticket.generation ↔ ticket.widget = id := by
    constructor
    · intro hGeneration
      rw [hOps] at hGeneration hPending
      exact (hSound.widget_of_pending (hSound.pending _ _ hPending) hGeneration).symm
    · rintro rfl
      exact hPending
  rw [Fetches.isLive_cancel, ne_eq, hSame]

end Update

/-- An edit that takes the place and the id of a widget away and changes its type. -/
def wreck (w : Widget Exact) : Widget Exact :=
  { w with id := "b", x := .undefined, w := 40, settings := .new .statusBar }

/-- The widget that is wrecked gets a place over the whole width, and the others move down. -/
theorem fetchingBoard_update_edits : ∃ b b', fetchingBoard = .ok b ∧ b.layout = threeWidgets ∧
    b.perform (.update "a" wreck) = (.done, b') ∧ b'.layout.ids = ["a", "b", "c"] ∧
    (∃ v, b'.layout.find? "a" = some v ∧ v.settings = .new .statusBar) ∧
    (∀ limit labels, b'.layout.tidy limit labels = .ok (b'.layout, labels)) ∧
    b'.fetches.isLive ⟨"a", 1⟩ = false ∧ b'.fetches.isLive ⟨"b", 2⟩ = true := by
  obtain ⟨b, labels, hBoard, hReached, hLayout, hTidy, hRoom, hFetches⟩ := exists_fetchingBoard
  have hFind : b.layout.find? "a" = some (.of "a" (.new .stats) ⟨0, 0, 3, 2⟩) := by
    rw [hLayout]
    decide +kernel
  obtain ⟨b', hReply, hEdited, hAgain, -, -, hLive⟩ :=
    Reached.update_edits hReached hTidy hRoom hFind wreck
  obtain ⟨v, hv, hContent⟩ := hEdited.changed
  refine ⟨b, b', hBoard, hLayout, hReply, ?_, ⟨v, hv, ?_⟩, hAgain, ?_, ?_⟩
  · rw [hEdited.ids, hLayout]
    decide +kernel
  · simp only [Widget.content, Prod.mk.injEq] at hContent
    exact hContent.2.2.2.2
  · rw [← Bool.not_eq_true, hLive ⟨"a", 1⟩ (by rw [hFetches]; rfl)]
    simp
  · rw [hLive ⟨"b", 2⟩ (by rw [hFetches]; rfl), hFetches]
    decide

/-- What is below the widget moves down for it. -/
example : (match fetchingBoard with
    | .ok b => (b.perform (.update "a" wreck)).2.layout.widgets.map Widget.rect
    | .error _ => []) = [⟨0, 0, 6, 2⟩, ⟨3, 2, 3, 3⟩, ⟨0, 5, 6, 4⟩] := by decide +kernel

end Board
end NoteBoard
