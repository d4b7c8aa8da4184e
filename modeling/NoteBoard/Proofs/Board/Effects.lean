import NoteBoard.Board.Call

/-! What each call can do to a board: the ways in which it succeeds, with what had to go well, and
the ways in which it fails, with what is left. -/
namespace NoteBoard
namespace Board

variable {K σ τ : Type}

/-- Whether the answer is turned into a reply or not, the board is the same. -/
@[simp] theorem reply_snd {α : Type} (f : α → Reply K) (o : Outcome K σ τ α) :
    (reply f o).2 = o.2 := by
  obtain ⟨answer, b⟩ := o
  cases answer with
  | ok a => rfl
  | error e => rfl

theorem widget_cases (b : Board K σ τ) (id : String) :
    (∃ w, b.layout.find? id = some w ∧ b.widget id = .ok w) ∨
      (b.layout.find? id = none ∧ b.widget id = .error (.unknownWidget id)) := by
  unfold widget
  cases b.layout.find? id with
  | none => exact Or.inr ⟨rfl, rfl⟩
  | some w => exact Or.inl ⟨w, rfl, rfl⟩

theorem remove_cases [LayoutKeeper τ K] (b : Board K σ τ) (id : String) :
    (∃ w, b.layout.find? id = some w ∧
        b.remove id = (.ok w, { b.abandonGesture.2 with
          fetches := (b.fetches.cancel id).2
          data := b.data.erase id }.adopt (b.layout.remove id))) ∨
      (b.layout.find? id = none ∧ b.remove id = (.error (.unknownWidget id), b)) := by
  unfold remove
  rcases b.widget_cases id with ⟨w, hFind, hWidget⟩ | ⟨hFind, hWidget⟩
  · exact Or.inl ⟨w, hFind, by rw [hWidget]⟩
  · exact Or.inr ⟨hFind, by rw [hWidget]⟩

section Numbers

variable [Number K]

/-- A new board has the tidied layout of its settings, which are in range, and nothing else. -/
theorem eq_of_create [LabelSource] {settings : Settings K} {source : σ} {keeper : τ}
    {labels : Labels} {b : Board K σ τ} (h : create settings source keeper labels = .ok b) :
    settings.validate = .ok () ∧
      ∃ t labels', (settings.newLayout labels).1.tidy settings.limit
          (settings.newLayout labels).2 = .ok (t, labels') ∧
        b = ⟨settings, source, keeper, t, none, none, none, .none, [], labels'⟩ := by
  unfold create at h
  cases hValid : settings.validate with
  | error e =>
      rw [hValid] at h
      cases h
  | ok _ =>
      cases hTidy : (settings.newLayout labels).1.tidy settings.limit
          (settings.newLayout labels).2 with
      | error e =>
          simp only [bind, Except.bind, hValid, hTidy] at h
          cases h
      | ok tidied =>
          obtain ⟨t, labels'⟩ := tidied
          simp only [bind, Except.bind, hValid, hTidy] at h
          cases h
          exact ⟨rfl, t, labels', rfl, rfl⟩

/-- A layout in the unit of the board, as far as the container is known. -/
def converted (b : Board K σ τ) (l : Layout K) : Except (Error K) (Layout K) :=
  match b.container with
  | some c => inBoardUnit b.settings l c
  | none => .ok l

/-- A board in pixels whose layout still is in cells. -/
def IsWaiting (b : Board K σ τ) : Prop :=
  b.settings.unit = .pixels ∧ b.layout.unit = .cells

/-- The container is recorded before the layout is turned into pixels, and stays recorded when
that fails. -/
theorem measure_cases [LayoutKeeper τ K] (b : Board K σ τ) (c : Container K) :
    (c.isValid = false ∧ b.measure c = (.error (.container c.width c.height), b)) ∨
      (c.isValid = true ∧ ¬ b.IsWaiting ∧
        b.measure c = (.ok (), { b with container := some c })) ∨
      (c.isValid = true ∧ b.IsWaiting ∧ ∃ l, b.layout.toPixels b.settings.padding c = .ok l ∧
        b.measure c = (.ok (), { b with container := some c }.adopt l)) ∨
      (c.isValid = true ∧ b.IsWaiting ∧ ∃ e, b.layout.toPixels b.settings.padding c = .error e ∧
        b.measure c = (.error e, { b with container := some c })) := by
  cases hValid : c.isValid with
  | false => exact Or.inl ⟨rfl, by simp [measure, hValid]⟩
  | true =>
      refine Or.inr ?_
      by_cases hWaiting : b.IsWaiting
      · have hUnits : b.settings.unit = .pixels ∧ b.layout.unit = .cells := hWaiting
        refine Or.inr ?_
        cases hPixels : b.layout.toPixels b.settings.padding c with
        | ok l => exact Or.inl ⟨rfl, hWaiting, l, rfl, by simp [measure, hValid, hUnits, hPixels]⟩
        | error e =>
            exact Or.inr ⟨rfl, hWaiting, e, rfl, by simp [measure, hValid, hUnits, hPixels]⟩
      · have hUnits : ¬ (b.settings.unit = .pixels ∧ b.layout.unit = .cells) := hWaiting
        exact Or.inl ⟨rfl, hWaiting, by simp [measure, hValid, hUnits]⟩

/-- A load that fails leaves no trace. -/
theorem load_cases [LabelSource] (b : Board K σ τ) (l : Layout K) :
    (∃ t labels l', l.tidy b.settings.limit b.labels = .ok (t, labels) ∧
        b.converted t = .ok l' ∧
        b.load l = (.ok (), { b.forget with layout := l', labels := labels })) ∨
      ∃ e, b.load l = (.error e, b) := by
  unfold load converted
  cases l.tidy b.settings.limit b.labels with
  | error e => exact Or.inr ⟨e, rfl⟩
  | ok tidied =>
      obtain ⟨t, labels⟩ := tidied
      cases b.container with
      | none => exact Or.inl ⟨t, labels, t, rfl, rfl, rfl⟩
      | some c =>
          cases hUnit : inBoardUnit b.settings t c with
          | ok l' =>
              refine Or.inl ⟨t, labels, l', rfl, hUnit, ?_⟩
              simp only [bind, Except.bind, hUnit]
              rfl
          | error e => exact Or.inr ⟨e, by simp only [bind, Except.bind, hUnit]⟩

/-- The board is emptied before the new layout is turned into pixels, and stays empty when that
fails. -/
theorem reset_cases [LabelSource] [LayoutKeeper τ K] (b : Board K σ τ) :
    (∃ t labels, (b.settings.newLayout b.labels).1.tidy b.settings.limit
          (b.settings.newLayout b.labels).2 = .ok (t, labels) ∧
        ((∃ l, b.converted t = .ok l ∧
            b.reset = (.ok (), { b.forget with labels := labels }.adopt l)) ∨
          ∃ e, b.converted t = .error e ∧
            b.reset = (.error e, { b.forget with labels := labels }))) ∨
      ∃ e, (b.settings.newLayout b.labels).1.tidy b.settings.limit
          (b.settings.newLayout b.labels).2 = .error e ∧ b.reset = (.error e, b) := by
  cases hTidy : (b.settings.newLayout b.labels).1.tidy b.settings.limit
      (b.settings.newLayout b.labels).2 with
  | error e => exact Or.inr ⟨e, rfl, by simp only [reset, hTidy]⟩
  | ok tidied =>
      obtain ⟨t, labels⟩ := tidied
      refine Or.inl ⟨t, labels, rfl, ?_⟩
      unfold converted
      cases hContainer : b.container with
      | none =>
          refine Or.inl ⟨t, rfl, ?_⟩
          simp only [reset, hTidy, forget, abandonGesture, hContainer]
      | some c =>
          cases hUnit : inBoardUnit b.settings t c with
          | ok l =>
              refine Or.inl ⟨l, hUnit, ?_⟩
              simp only [reset, hTidy, forget, abandonGesture, hContainer, hUnit]
          | error e =>
              refine Or.inr ⟨e, hUnit, ?_⟩
              simp only [reset, hTidy, forget, abandonGesture, hContainer, hUnit]

theorem insert_cases [LabelSource] [LayoutKeeper τ K] (b : Board K σ τ) (w : Widget K) :
    (∃ t labels, (b.layout.place w b.settings.limit).tidy b.settings.limit b.labels =
          .ok (t, labels) ∧
        b.insert w = (.ok ((t.widgets.getLast?.map (·.id)).getD ""),
          { b.abandonGesture.2 with labels := labels }.adopt t)) ∨
      ∃ e, (b.layout.place w b.settings.limit).tidy b.settings.limit b.labels = .error e ∧
        b.insert w = (.error e, b) := by
  cases hTidy : (b.layout.place w b.settings.limit).tidy b.settings.limit b.labels with
  | error e => exact Or.inr ⟨e, rfl, by simp only [insert, hTidy]⟩
  | ok tidied =>
      obtain ⟨t, labels⟩ := tidied
      exact Or.inl ⟨t, labels, rfl, by simp only [insert, hTidy]⟩

/-- A new widget is inserted, or the container is too narrow for its size in pixels. -/
theorem add_cases [LabelSource] [LayoutKeeper τ K] (b : Board K σ τ) (t : WidgetType) :
    (∃ r, b.add t = { b with labels := (b.labels.fresh b.layout.ids).2 }.insert
        ((Widget.new (b.labels.fresh b.layout.ids).1 t).withRect r)) ∨
      ∃ e, b.newPixelRect (Widget.new (K := K) (b.labels.fresh b.layout.ids).1 t).rect = .error e ∧
        b.add t = (.error e, b) := by
  cases hUnit : b.layout.unit with
  | cells => exact Or.inl ⟨_, by simp only [add, hUnit]; rfl⟩
  | pixels =>
      cases hRect : b.newPixelRect (Widget.new (K := K) (b.labels.fresh b.layout.ids).1 t).rect with
      | ok r => exact Or.inl ⟨r, by simp only [add, hUnit, hRect]⟩
      | error e => exact Or.inr ⟨e, rfl, by simp only [add, hUnit, hRect]⟩

theorem update_cases [LabelSource] [LayoutKeeper τ K] (b : Board K σ τ) (id : String)
    (edit : Widget K → Widget K) :
    (∃ t labels, (b.layout.find? id).isSome = true ∧
        (b.layout.modify id fun w => { edit w.upgrade with id := id }).tidy b.settings.limit
          b.labels = .ok (t, labels) ∧
        b.update id edit = (.ok (), { b.abandonGesture.2 with
          fetches := (b.fetches.cancel id).2
          data := b.data.erase id
          labels := labels }.adopt t)) ∨
      ∃ e, b.update id edit = (.error e, b) := by
  rcases b.widget_cases id with ⟨w, hFind, hWidget⟩ | ⟨hFind, hWidget⟩
  · cases hTidy : (b.layout.modify id fun w => { edit w.upgrade with id := id }).tidy
        b.settings.limit b.labels with
    | ok tidied =>
        obtain ⟨t, labels⟩ := tidied
        refine Or.inl ⟨t, labels, by rw [hFind, Option.isSome_some], rfl, ?_⟩
        simp only [update, hWidget, hTidy]
    | error e => exact Or.inr ⟨e, by simp only [update, hWidget, hTidy]⟩
  · exact Or.inr ⟨.unknownWidget id, by simp only [update, hWidget]⟩

/-- Gestures are measured with the unit and the columns of the layout. -/
theorem surface_measures {b : Board K σ τ} {s : Surface K} (h : b.surface = .ok s) :
    s.unit = b.layout.unit ∧ s.columns = b.layout.columns := by
  unfold surface at h
  cases hContainer : b.container with
  | none =>
      rw [hContainer] at h
      cases h
  | some c =>
      rw [hContainer] at h
      cases hUnit : b.layout.unit with
      | pixels =>
          simp only [hUnit, bind, Except.bind, pure, Except.pure] at h
          cases h
          exact ⟨rfl, rfl⟩
      | cells =>
          cases hWidth : b.layout.columnWidth b.settings.padding c with
          | error e =>
              simp only [hUnit, hWidth, bind, Except.bind] at h
              cases h
          | ok width =>
              simp only [hUnit, hWidth, bind, Except.bind, pure, Except.pure] at h
              cases h
              exact ⟨rfl, rfl⟩

theorem startGesture_cases (b : Board K σ τ) (kind : GestureKind) (id : String) (p : Point K) :
    (∃ s w, b.surface = .ok s ∧ b.layout.find? id = some w ∧
        b.startGesture kind id p = (.ok (), { b with
          working := some b.layout
          gesture := some ⟨id, kind, p, w.rect⟩ })) ∨
      ∃ e, b.startGesture kind id p = (.error e, b) := by
  unfold startGesture
  cases b.surface with
  | error e => exact Or.inr ⟨e, rfl⟩
  | ok s =>
      rcases b.widget_cases id with ⟨w, hFind, hWidget⟩ | ⟨hFind, hWidget⟩
      · exact Or.inl ⟨s, w, rfl, hFind,
          by simp only [bind, Except.bind, hWidget, Gesture.takeOver]⟩
      · exact Or.inr ⟨.unknownWidget id, by simp only [bind, Except.bind, hWidget]⟩

/-- Without a gesture the pointer moves nothing, and where it cannot be followed the widget stays
where it was shown. -/
theorem movePointer_cases (b : Board K σ τ) (p : Point K) :
    (b.gesture = none ∧ b.movePointer p = (.ok false, b)) ∨
      (∃ g s r, b.gesture = some g ∧ b.surface = .ok s ∧ g.rectAt? s p = some r ∧
        b.movePointer p = (.ok (b.shown.contains g.widget),
          { b with working := some (b.shown.modify g.widget fun w => w.withRect r) })) ∨
      ∃ e, b.movePointer p = (.error e, b) := by
  cases hGesture : b.gesture with
  | none => exact Or.inl ⟨rfl, by simp only [movePointer, hGesture]⟩
  | some g =>
      refine Or.inr ?_
      cases hSurface : b.surface with
      | error e => exact Or.inr ⟨e, by simp only [movePointer, hGesture, hSurface]⟩
      | ok s =>
          cases hRect : g.rectAt? s p with
          | none =>
              exact Or.inr ⟨.emptyInterval, by simp only [movePointer, hGesture, hSurface, hRect]⟩
          | some r =>
              exact Or.inl ⟨g, s, r, rfl, rfl, hRect,
                by simp only [movePointer, hGesture, hSurface, hRect]⟩

theorem liftPointer_cases [LayoutKeeper τ K] (b : Board K σ τ) :
    (b.gesture = none ∧ b.liftPointer = (false, b)) ∨
      ∃ g, b.gesture = some g ∧ b.liftPointer = (true,
        { b with gesture := none }.adopt (b.shown.settle (some g.widget) b.settings.limit)) := by
  unfold liftPointer
  cases b.gesture with
  | none => exact Or.inl ⟨rfl, rfl⟩
  | some g => exact Or.inr ⟨g, rfl, rfl⟩

end Numbers

theorem startFetch_cases (b : Board K σ τ) (id : String) :
    (∃ w, b.layout.find? id = some w ∧
        b.startFetch id = (.ok (b.fetches.start id).1,
          { b with fetches := (b.fetches.start id).2 })) ∨
      (b.layout.find? id = none ∧ b.startFetch id = (.error (.unknownWidget id), b)) := by
  unfold startFetch
  rcases b.widget_cases id with ⟨w, hFind, hWidget⟩ | ⟨hFind, hWidget⟩
  · exact Or.inl ⟨w, hFind, by rw [hWidget]⟩
  · exact Or.inr ⟨hFind, by rw [hWidget]⟩

theorem evaluate_cases [TimeZone] [Provider σ K] [Numeral K] (b : Board K σ τ) (id : String)
    (now : Instant) :
    (∃ w, b.layout.find? id = some w ∧
        b.evaluate id now = (.ok (w.evaluate b.source b.settings.presets now),
          { b with data := b.data.set id (w.evaluate b.source b.settings.presets now) })) ∨
      (b.layout.find? id = none ∧ b.evaluate id now = (.error (.unknownWidget id), b)) := by
  unfold evaluate
  rcases b.widget_cases id with ⟨w, hFind, hWidget⟩ | ⟨hFind, hWidget⟩
  · exact Or.inl ⟨w, hFind, by rw [hWidget]⟩
  · exact Or.inr ⟨hFind, by rw [hWidget]⟩

end Board
end NoteBoard
