import NoteBoard.Proofs.Board.Gesture
import NoteBoard.Proofs.Layout.Ids

/-! How gestures end. Where the widget is shown comes from the last move of the pointer that
succeeded, whatever happened before; that is what is saved, or nothing is. -/
namespace NoteBoard

/-- What happens during a gesture: the pointer moves, or the container is measured again. -/
def Call.IsMotion {K : Type} : Call K → Prop
  | .movePointer _ | .measure _ => True
  | _ => False

namespace Board

variable {K σ τ : Type}

section Motion

variable [Numeral K] [TimeZone] [LabelSource] [Provider σ K] [LayoutKeeper τ K]

/-- Where a gesture takes its widget with a call, if that is a move of the pointer and succeeds. -/
def rectBy? (b : Board K σ τ) (g : Gesture K) (call : Call K) : Option (Rect K) :=
  match call, (b.perform call).1 with
  | .movePointer p, .flag true => b.surface.toOption.bind fun s => g.rectAt? s p
  | _, _ => none

/-- Where calls take the widget one after another. -/
def rectsBy (b : Board K σ τ) (g : Gesture K) : List (Call K) → List (Rect K)
  | [] => []
  | call :: rest => (b.rectBy? g call).toList ++ (b.perform call).2.rectsBy g rest

/-- The board during a gesture that shows its widget at a place. -/
def during (b : Board K σ τ) (g : Gesture K) (c : Option (Container K)) (r : Rect K) :
    Board K σ τ :=
  { b with
    container := c
    working := some (b.layout.modify g.widget fun w => w.withRect r)
    gesture := some g }

variable {b : Board K σ τ} {g : Gesture K}

/-- A move of the pointer that can be followed shows the widget elsewhere, whatever was shown. -/
theorem movePointer_during_of_rectAt? (hWidget : b.layout.contains g.widget = true)
    {c : Option (Container K)} {r r' : Rect K} {p : Point K} {s : Surface K}
    (hSurface : (b.during g c r).surface = .ok s) (hRect : g.rectAt? s p = some r') :
    (b.during g c r).perform (.movePointer p) = (.flag true, b.during g c r') := by
  have hGesture : (b.during g c r).gesture = some g := rfl
  have hShown : (b.during g c r).shown.contains g.widget = true := by
    rw [Layout.contains_iff] at hWidget ⊢
    change g.widget ∈ (b.layout.modify g.widget fun w => w.withRect r).ids
    rwa [Layout.modify_ids b.layout fun w hSame => (w.id_withRect r).trans hSame]
  simp only [perform, movePointer, hGesture, hSurface, hRect, hShown]
  simp only [reply, during, shown, Option.getD_some, Layout.modify,
    Layout.modifyFirst_withRect_twice]

/-- A move of the pointer shows the widget elsewhere, or fails and changes nothing. -/
theorem movePointer_during (hWidget : b.layout.contains g.widget = true)
    (c : Option (Container K)) (r : Rect K) (p : Point K) :
    ((b.during g c r).perform (.movePointer p)).2 =
      b.during g c (((b.during g c r).rectBy? g (.movePointer p)).getD r) := by
  rcases (b.during g c r).movePointer_cases p with ⟨hNone, -⟩ |
    ⟨g', s, r', hGesture, hSurface, hRect, -⟩ | ⟨e, hMove⟩
  · cases hNone
  · obtain rfl : g = g' := Option.some.inj hGesture
    have hReply := movePointer_during_of_rectAt? hWidget hSurface hRect
    have hBy : (b.during g c r).rectBy? g (.movePointer p) = some r' := by
      simp only [rectBy?, hReply, hSurface]
      exact hRect
    rw [hReply, hBy, Option.getD_some]
  · have hReply : (b.during g c r).perform (.movePointer p) = (.failed e, b.during g c r) := by
      rw [perform, hMove]
      rfl
    have hBy : (b.during g c r).rectBy? g (.movePointer p) = none := by
      simp only [rectBy?, hReply]
    rw [hReply, hBy, Option.getD_none]

/-- A board that does not wait for its container takes note of it and does nothing else. -/
theorem measure_during (hReady : ¬ b.IsWaiting) (c : Option (Container K)) (r : Rect K)
    (c' : Container K) :
    ∃ c'', ((b.during g c r).perform (.measure c')).2 = b.during g c'' r := by
  rw [perform, reply_snd]
  rcases (b.during g c r).measure_cases c' with ⟨-, hMeasure⟩ | ⟨-, -, hMeasure⟩ |
    ⟨-, hWaiting, -⟩ | ⟨-, hWaiting, -⟩
  · exact ⟨c, by rw [hMeasure]⟩
  · exact ⟨some c', by rw [hMeasure]; rfl⟩
  · exact absurd hWaiting hReady
  · exact absurd hWaiting hReady

/-- What happens during a gesture changes the container, and the place where the widget is shown
if the pointer is moved with success. -/
theorem perform_during (hWidget : b.layout.contains g.widget = true) (hReady : ¬ b.IsWaiting)
    {call : Call K} (hMotion : call.IsMotion) (c : Option (Container K)) (r : Rect K) :
    ∃ c', ((b.during g c r).perform call).2 =
      b.during g c' (((b.during g c r).rectBy? g call).getD r) := by
  cases call with
  | movePointer p => exact ⟨c, movePointer_during hWidget c r p⟩
  | measure c' => exact measure_during hReady c r c'
  | _ => cases hMotion

/-- At any time during a gesture, the last place that the widget was taken to is shown. -/
theorem run_during (hWidget : b.layout.contains g.widget = true) (hReady : ¬ b.IsWaiting)
    {calls : List (Call K)} (hCalls : ∀ call ∈ calls, call.IsMotion) (c : Option (Container K))
    (r : Rect K) :
    ∃ c', (b.during g c r).run calls =
      b.during g c' (((b.during g c r).rectsBy g calls).getLastD r) := by
  induction calls generalizing c r with
  | nil => exact ⟨c, rfl⟩
  | cons call rest ih =>
      obtain ⟨hMotion, hRest⟩ := List.forall_mem_cons.1 hCalls
      obtain ⟨c', hCall⟩ := perform_during hWidget hReady hMotion c r
      obtain ⟨c'', hRun⟩ := ih hRest c' (((b.during g c r).rectBy? g call).getD r)
      refine ⟨c'', ?_⟩
      rw [run, List.foldl_cons, ← run, rectsBy, hCall, hRun]
      cases (b.during g c r).rectBy? g call with
      | none => rfl
      | some r' => rw [Option.toList_some, List.singleton_append, List.getLastD_cons]; rfl

/-- A gesture that begins shows its widget where it is, on a board that does not wait for its
container. -/
theorem startGesture_during (h : b.IsFollowed) {kind : GestureKind} {id : String}
    {p : Point K} (hStart : (b.perform (.startGesture kind id p)).1 = .done) :
    ∃ w, b.layout.find? id = some w ∧ ¬ b.IsWaiting ∧
      (b.perform (.startGesture kind id p)).2 =
        b.during ⟨id, kind, p, w.rect⟩ b.container w.rect := by
  have hStarted := h.startGesture kind id p
  rcases b.startGesture_cases kind id p with ⟨s, w, -, hFind, hCase⟩ | ⟨e, hCase⟩
  · rw [hCase] at hStarted
    refine ⟨w, hFind, fun hWaiting => ?_, ?_⟩
    · cases hStarted.idle hWaiting
    · rw [perform, hCase, reply, during, Layout.modify_withRect_self hFind]
  · rw [perform, hCase] at hStart
    cases hStart

end Motion

section Ends

/-- What the layout becomes when a widget is released at a place: the widget is moved there and
pinned, and the layout is settled. -/
def released (b : Board Exact σ τ) (id : String) (r : Rect Exact) : Layout Exact :=
  (b.layout.modify id fun w => w.withRect r).settle (some id) b.settings.limit

/-- Around a widget that is released, the others can only be pushed down. -/
theorem released_sunk (b : Board Exact σ τ) (id : String) (r : Rect Exact) :
    List.Forall₂ Widget.Sunk (b.layout.remove id).widgets
      ((b.released id r).remove id).widgets := by
  have hSunk := (b.layout.modify id fun w => w.withRect r).settle_sunk (some id) b.settings.limit
  have hOthers := forall₂_eraseP (p := (·.id == id)) (fun w v h => by rw [h.id_eq]) hSunk
  rwa [Layout.modify, Layout.eraseP_modifyFirst fun w hSame => (w.id_withRect r).trans hSame]
    at hOthers

theorem released_find? (b : Board Exact σ τ) {id : String} {w : Widget Exact}
    (hFind : b.layout.find? id = some w) (r : Rect Exact) :
    (b.released id r).find? id = some (w.withRect r) := by
  obtain ⟨-, hId⟩ := Layout.mem_of_find? hFind
  rw [released, Layout.settle_find?_pinned]
  exact Layout.find?_modifyFirst hFind hId

variable [TimeZone] [LabelSource] [Provider σ Exact] [LayoutKeeper τ Exact]

/-- How a busy board can end a gesture that began on a board and took a widget to a place. Lifting
the pointer saves once, and changes the layout only so far that the widget is where it was shown and
others are further down; abandoning the gesture changes nothing. -/
structure EndsAt (b busy : Board Exact σ τ) (w : Widget Exact) (r : Rect Exact) : Prop where
  shown : busy.shown.find? w.id = some (w.withRect r)
  lifted : busy.perform .liftPointer =
    (.flag true,
      { b with container := busy.container, gesture := none }.adopt (b.released w.id r))
  stays : (b.released w.id r).find? w.id = some (w.withRect r)
  others : List.Forall₂ Widget.Sunk (b.layout.remove w.id).widgets
    ((b.released w.id r).remove w.id).widgets
  abandoned : busy.perform .abandonGesture =
    (.flag true, { b with container := busy.container, working := none, gesture := none })

/-- During a gesture that took a widget to a place, the gesture can be ended there. -/
theorem endsAt_during {b : Board Exact σ τ} {g : Gesture Exact} {w : Widget Exact}
    (hFind : b.layout.find? g.widget = some w) (c : Option (Container Exact)) (r : Rect Exact) :
    b.EndsAt (b.during g c r) w r := by
  obtain ⟨-, hId⟩ := Layout.mem_of_find? hFind
  refine ⟨?_, ?_, ?_, b.released_sunk w.id r, rfl⟩
  · rw [hId]
    exact Layout.find?_modifyFirst hFind hId
  · rw [hId]
    rfl
  · rw [hId]
    exact b.released_find? hFind r

/-- However a gesture went on, the board ends it at the last place that the widget was taken to, or
where the widget was. -/
theorem Reached.gesture_ends {Admitted : Board Exact σ τ → Prop} {b : Board Exact σ τ}
    (hReached : Reached Admitted b) {kind : GestureKind} {id : String} {p : Point Exact}
    (hStart : (b.perform (.startGesture kind id p)).1 = .done) {calls : List (Call Exact)}
    (hCalls : ∀ call ∈ calls, call.IsMotion) : ∃ w, b.layout.find? id = some w ∧
      b.EndsAt ((b.perform (.startGesture kind id p)).2.run calls) w
        (((b.perform (.startGesture kind id p)).2.rectsBy ⟨id, kind, p, w.rect⟩ calls).getLastD
          w.rect) := by
  obtain ⟨w, hFind, hReady, hStarted⟩ := startGesture_during hReached.isFollowed hStart
  have hWidget : b.layout.contains id = true := by
    rw [Layout.contains_iff]
    exact Layout.mem_ids_of_find? hFind
  obtain ⟨c, hRun⟩ := run_during (g := ⟨id, kind, p, w.rect⟩) hWidget hReady hCalls b.container
    w.rect
  rw [hStarted, hRun]
  exact ⟨w, hFind, endsAt_during hFind c _⟩

end Ends

-- The host of the boards below keeps universal time.
attribute [local instance] TimeZone.universal

/-- A new board that has been measured and keeps what it saves. -/
def savingBoard : Except (Error Exact) (Board Exact (NoProvider Exact) (SavedLayouts Exact)) :=
  (create .defaults ⟨⟩ ⟨[]⟩ ⟨0⟩).map fun b => b.run [.measure ⟨1200, 800⟩]

/-- The pointer moves while the container gets too narrow for it to be followed, and wide again. -/
def motions : List (Call Exact) :=
  [.movePointer ⟨300, -200⟩, .measure ⟨100, 800⟩, .movePointer ⟨0, 600⟩, .measure ⟨1000, 800⟩,
    .movePointer ⟨90, -200⟩]

/-- The second move fails, the third starts from where the widget was and not from the first, and
the widgets that the third one is dragged over are pushed down when it is released. -/
theorem dragged_gesture_ends : ∃ b w, savingBoard = .ok b ∧ Reached (fun _ => True) b ∧
    (b.perform (.startGesture .drag (label 3) ⟨0, 0⟩)).1 = .done ∧
    (∀ call ∈ motions, call.IsMotion) ∧
    (b.perform (.startGesture .drag (label 3) ⟨0, 0⟩)).2.rectsBy
      ⟨label 3, .drag, ⟨0, 0⟩, w.rect⟩ motions = [⟨3, 0, 6, 4⟩, ⟨1, 0, 6, 4⟩] ∧
    b.EndsAt ((b.perform (.startGesture .drag (label 3) ⟨0, 0⟩)).2.run motions) w ⟨1, 0, 6, 4⟩ ∧
    (b.released (label 3) ⟨1, 0, 6, 4⟩).widgets.map Widget.y = [4, 4, 0, 4] := by
  have hRun : (match savingBoard with
      | .ok b =>
        let start := b.perform (.startGesture .drag (label 3) ⟨0, 0⟩)
        (match start.1 with
          | .done => true
          | _ => false) &&
        decide ((b.layout.find? (label 3)).map Widget.rect = some ⟨0, 2, 6, 4⟩ ∧
          start.2.rectsBy ⟨label 3, .drag, ⟨0, 0⟩, ⟨0, 2, 6, 4⟩⟩ motions =
            [⟨3, 0, 6, 4⟩, ⟨1, 0, 6, 4⟩] ∧
          (b.released (label 3) ⟨1, 0, 6, 4⟩).widgets.map Widget.y = [4, 4, 0, 4])
      | .error _ => false) = true := by decide +kernel
  cases hNew : create (.defaults : Settings Exact) (⟨⟩ : NoProvider Exact)
      (⟨[]⟩ : SavedLayouts Exact) ⟨0⟩ with
  | error e =>
      rw [savingBoard, hNew] at hRun
      cases hRun
  | ok new =>
      have hBoard : savingBoard = .ok (new.run [.measure ⟨1200, 800⟩]) := by
        rw [savingBoard, hNew]
        rfl
      have hNewReached : Reached (fun _ => True) new := .created hNew trivial
      have hReached : Reached (fun _ => True) (new.run [.measure ⟨1200, 800⟩]) :=
        hNewReached.run fun _ _ => trivial
      rw [hBoard] at hRun
      generalize new.run [.measure ⟨1200, 800⟩] = b at hRun hBoard hReached
      simp only [Bool.and_eq_true, decide_eq_true_eq] at hRun
      obtain ⟨hDone, hFind, hRects, hRows⟩ := hRun
      have hStart : (b.perform (.startGesture .drag (label 3) ⟨0, 0⟩)).1 = .done := by
        split at hDone
        · assumption
        · cases hDone
      have hCalls : ∀ call ∈ motions, call.IsMotion := by simp [motions, Call.IsMotion]
      obtain ⟨w, hWidget, hEnds⟩ := Reached.gesture_ends hReached hStart hCalls
      have hRect : w.rect = ⟨0, 2, 6, 4⟩ := by simpa [hWidget] using hFind
      rw [← hRect] at hRects
      rw [hRects] at hEnds
      exact ⟨b, w, hBoard, hReached, hStart, hCalls, hRects, hEnds, hRows⟩

end Board
end NoteBoard
