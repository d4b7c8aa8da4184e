import NoteBoard.Proofs.Board.Released
import NoteBoard.Proofs.Geometry.Snapped

/-! Gestures on a board in pixels, and whether the layout that is saved in the end is one that
tidying leaves alone, so that it is the same when it is loaded again. -/
namespace NoteBoard

/-- Settings in range have a finite least size of widgets. -/
theorem Settings.isFinite_leastPixels {K : Type} [Number K] {s : Settings K}
    (h : s.validate = .ok ()) : Number.isFinite s.leastPixels = true := by
  by_contra hNot
  have hSmall : atLeast 1 s.leastPixels = false := by simp [atLeast, hNot]
  simp only [validate, hSmall, Bool.not_false, if_true] at h
  repeat' split at h
  all_goals cases h

namespace Board

section Moved

variable {σ τ : Type}

/-- The measures for gestures on a board in pixels. -/
def pixelSurface (b : Board Exact σ τ) (c : Container Exact) : Surface Exact :=
  ⟨.pixels, b.layout.columns, 1, b.layout.rowHeight, b.layout.gap, c, b.settings.leastPixels⟩

variable {b : Board Exact σ τ} (hIsTidy : b.layout.IsTidy) (hUnit : b.layout.unit = .pixels)
  (hSettings : b.settings.validate = .ok ()) {c : Container Exact} {id : String} {w : Widget Exact}
  (hFind : b.layout.find? id = some w) (kind : GestureKind) {p : Point Exact}
  (hPointer : p.IsFinite) {moves : List (Point Exact)} (hMoves : ∀ q ∈ moves, q.IsFinite)

include hIsTidy hUnit hSettings hFind hPointer hMoves

/-- Every move goes to a rectangle, which fits exactly if no bound applied that is not whole. -/
theorem exists_moved_fits_iff : ∀ q ∈ moves, ∃ r,
    Gesture.rectAt? ⟨id, kind, p, w.rect⟩ (b.pixelSurface c) q = some r ∧
      (r.Fits .pixels b.layout.columns ↔
        Gesture.IsSnapped ⟨id, kind, p, w.rect⟩ (b.pixelSurface c) q) := by
  intro q hq
  have hRect := hIsTidy.fits w (Layout.mem_of_find? hFind).1
  rw [hUnit] at hRect
  exact Gesture.exists_rect_fits_iff hRect rfl (Settings.isFinite_leastPixels hSettings) hPointer
    (hMoves q hq)

/-- The last move decides whether the rectangle fits, if there is any. -/
theorem last_fits_iff :
    let g : Gesture Exact := ⟨id, kind, p, w.rect⟩
    ((moves.getLast?.bind (g.rectAt? (b.pixelSurface c))).getD w.rect).Fits .pixels
        b.layout.columns ↔
      ∀ q ∈ moves.getLast?, g.IsSnapped (b.pixelSurface c) q := by
  intro g
  have hEach := exists_moved_fits_iff (c := c) hIsTidy hUnit hSettings hFind kind hPointer hMoves
  have hRect := hIsTidy.fits w (Layout.mem_of_find? hFind).1
  cases hLast : moves.getLast? with
  | none => simpa [← hUnit] using hRect
  | some q =>
      obtain ⟨r, hr, hFits⟩ := hEach q (List.mem_of_getLast? hLast)
      simpa [g, hr] using hFits

end Moved

section Moves

variable {K σ τ : Type} [Numeral K] [TimeZone] [LabelSource] [Provider σ K] [LayoutKeeper τ K]
variable {b : Board K σ τ} {g : Gesture K}

/-- After moves that can be followed, the widget is shown where the last one took it. -/
theorem run_moves (hWidget : b.layout.contains g.widget = true) {c : Option (Container K)}
    {s : Surface K} (hSurface : ∀ r, (b.during g c r).surface = .ok s) {moves : List (Point K)}
    (hMoves : ∀ q ∈ moves, (g.rectAt? s q).isSome = true) (r : Rect K) :
    (b.during g c r).run (moves.map .movePointer) =
      b.during g c ((moves.getLast?.bind (g.rectAt? s)).getD r) := by
  induction moves using List.reverseRecOn with
  | nil => rfl
  | append_singleton moves q ih =>
      obtain ⟨r', hRect⟩ := Option.isSome_iff_exists.1 (hMoves q (by simp))
      have hEarlier := ih fun p hp => hMoves p (List.mem_append_left _ hp)
      have hLast := movePointer_during_of_rectAt? hWidget
        (hSurface ((moves.getLast?.bind (g.rectAt? s)).getD r)) hRect
      rw [List.map_append, run_append, hEarlier]
      simp [run, hLast, hRect]

end Moves

section Lifted

variable {σ τ : Type} [LabelSource]

/-- Where a widget is released on a tidy board, tidying leaves the layout alone exactly if the place
of the widget fits. -/
theorem released_tidy_iff {b : Board Exact σ τ} (hTidy : b.layout.IsTidy) (hRoom : b.HasRoom)
    {id : String} {w : Widget Exact} (hFind : b.layout.find? id = some w) (r : Rect Exact)
    (limit : Nat) (labels : Labels) :
    (b.released id r).tidy limit labels = .ok (b.released id r, labels) ↔
      r.Fits b.layout.unit b.layout.columns := by
  constructor
  · intro hAgain
    have hReleased := Layout.mem_of_find? (b.released_find? hFind r)
    exact (Layout.tidy_isRepaired hAgain).fits _ hReleased.1
  · intro hFits
    have hMoved := hTidy.modify_withRect id hFits
    have hLimit : (b.layout.modify id fun w => w.withRect r).widgets.length ≤
        b.settings.limit + 1 := by
      rw [Layout.modify, Layout.length_modifyFirst]
      exact Nat.le_succ_of_le hRoom
    exact Layout.tidy_of_isTidy (hMoved.settle_isTidy (some id) hLimit) limit labels

variable [TimeZone] [Provider σ Exact] [LayoutKeeper τ Exact]

/-- On a board in pixels that has been measured, a gesture can always be started. -/
theorem startGesture_pixels {b : Board Exact σ τ} (hUnit : b.layout.unit = .pixels)
    {c : Container Exact} (hContainer : b.container = some c) {id : String} {w : Widget Exact}
    (hFind : b.layout.find? id = some w) (kind : GestureKind) (p : Point Exact) :
    (∀ r, (b.during ⟨id, kind, p, w.rect⟩ b.container r).surface = .ok (b.pixelSurface c)) ∧
      b.perform (.startGesture kind id p) =
        (.done, b.during ⟨id, kind, p, w.rect⟩ b.container w.rect) := by
  have hSurface (b' : Board Exact σ τ) (hLayout : b'.layout = b.layout)
      (hSettings : b'.settings = b.settings) (hSame : b'.container = some c) :
      b'.surface = .ok (b.pixelSurface c) := by
    simp only [surface, hSame, hLayout, hSettings, hUnit]
    rfl
  refine ⟨fun r => hSurface _ rfl rfl hContainer, ?_⟩
  simp only [perform, startGesture, hSurface b rfl rfl hContainer, widget, hFind, bind,
    Except.bind]
  rw [during, Layout.modify_withRect_self hFind]
  rfl

/-- Started and moved, a gesture shows the widget where the last move took it. -/
theorem run_gesture {b : Board Exact σ τ} (hIsTidy : b.layout.IsTidy)
    (hUnit : b.layout.unit = .pixels) (hSettings : b.settings.validate = .ok ())
    {c : Container Exact} (hContainer : b.container = some c) {id : String} {w : Widget Exact}
    (hFind : b.layout.find? id = some w) (kind : GestureKind) {p : Point Exact}
    (hPointer : p.IsFinite) {moves : List (Point Exact)} (hMoves : ∀ q ∈ moves, q.IsFinite) :
    let g : Gesture Exact := ⟨id, kind, p, w.rect⟩
    b.run (.startGesture kind id p :: moves.map .movePointer) = b.during g b.container
      ((moves.getLast?.bind (g.rectAt? (b.pixelSurface c))).getD w.rect) := by
  intro g
  have hEach := exists_moved_fits_iff (c := c) hIsTidy hUnit hSettings hFind kind hPointer hMoves
  obtain ⟨hSurface, hStart⟩ := startGesture_pixels hUnit hContainer hFind kind p
  have hWidget : b.layout.contains id = true := by rw [Layout.contains, hFind, Option.isSome_some]
  have hFollowed : ∀ q ∈ moves, (g.rectAt? (b.pixelSurface c) q).isSome = true := by
    intro q hq
    obtain ⟨r, hr, -⟩ := hEach q hq
    rw [hr, Option.isSome_some]
  change ((b.perform (.startGesture kind id p)).2).run (moves.map .movePointer) = _
  rw [hStart]
  exact run_moves hWidget hSurface hFollowed w.rect

/-- A board in pixels with a tidy layout. A widget is dragged or resized with a pointer at finite
places, and released. The gesture succeeds, and tidying leaves the layout that is saved alone
exactly if no bound applied to the last move that is not whole. That is always so in a container of
whole width with a whole least size of widgets. -/
theorem lifted_tidy_iff {b : Board Exact σ τ} {labels : Labels}
    (hTidy : b.layout.tidy b.settings.limit b.labels = .ok (b.layout, labels)) (hRoom : b.HasRoom)
    (hUnit : b.layout.unit = .pixels) (hSettings : b.settings.validate = .ok ())
    {c : Container Exact} (hContainer : b.container = some c) {id : String} {w : Widget Exact}
    (hFind : b.layout.find? id = some w) (kind : GestureKind) {p : Point Exact}
    (hPointer : p.IsFinite) {moves : List (Point Exact)} (hMoves : ∀ q ∈ moves, q.IsFinite) :
    let g : Gesture Exact := ⟨id, kind, p, w.rect⟩
    let s := b.pixelSurface c
    let r := (moves.getLast?.bind (g.rectAt? s)).getD w.rect
    let busy := b.run (.startGesture kind id p :: moves.map .movePointer)
    let lifted := (busy.perform .liftPointer).2
    busy = b.during g b.container r ∧ lifted.layout = b.released id r ∧
      (lifted.layout.tidy lifted.settings.limit lifted.labels =
          .ok (lifted.layout, lifted.labels) ↔ ∀ q ∈ moves.getLast?, g.IsSnapped s q) ∧
      (c.width.IsWhole → b.settings.leastPixels.IsWhole →
        lifted.layout.tidy lifted.settings.limit lifted.labels =
          .ok (lifted.layout, lifted.labels)) := by
  intro g s r busy lifted
  have hIsTidy := (Layout.tidy_isTidy hTidy hRoom).1
  obtain ⟨hMem, hId⟩ := Layout.mem_of_find? hFind
  have hBusy : busy = b.during g b.container r :=
    run_gesture hIsTidy hUnit hSettings hContainer hFind kind hPointer hMoves
  have hLifted : lifted = { b with gesture := none }.adopt (b.released id r) := by
    have hLift := (endsAt_during (g := g) hFind b.container r).lifted
    rw [hId, ← hBusy] at hLift
    rw [show lifted = (busy.perform .liftPointer).2 from rfl, hLift, hBusy]
    rfl
  have hStable : lifted.layout.tidy lifted.settings.limit lifted.labels =
      .ok (lifted.layout, lifted.labels) ↔ ∀ q ∈ moves.getLast?, g.IsSnapped s q := by
    have hFits := released_tidy_iff hIsTidy hRoom hFind r b.settings.limit b.labels
    rw [hUnit] at hFits
    rw [hLifted]
    exact hFits.trans (last_fits_iff hIsTidy hUnit hSettings hFind kind hPointer hMoves)
  refine ⟨hBusy, by rw [hLifted]; rfl, hStable, fun hWidth hWhole => hStable.2 fun q _ => ?_⟩
  exact Gesture.isSnapped_of_whole (hUnit ▸ hIsTidy.fits w hMem) rfl hWidth hWhole q

end Lifted

-- The host of the boards below keeps universal time.
attribute [local instance] TimeZone.universal

/-- A board in pixels with a tidy layout, in a container that ends within a pixel. -/
def halfPixelBoard : Board Exact (NoProvider Exact) (NoKeeper Exact) where
  settings := { Settings.defaults with unit := .pixels }
  source := ⟨⟩
  keeper := ⟨⟩
  layout := ⟨12, 80, 16, .pixels, [.of "a" (.new .stats) ⟨0, 0, 200, 150⟩,
    .of "b" (.new .taskList) ⟨0, 400, 200, 150⟩]⟩
  working := none
  container := some ⟨.finite (2401 / 2), 800⟩
  gesture := none
  fetches := .none
  data := []
  labels := ⟨0⟩

/-- A widget that is dragged to the right edge ends within a pixel, and is moved when the layout is
loaded again. -/
theorem dragged_to_edge_drifts :
    let g : Gesture Exact := ⟨"a", .drag, ⟨0, 0⟩, ⟨0, 0, 200, 150⟩⟩
    let s := halfPixelBoard.pixelSurface ⟨.finite (2401 / 2), 800⟩
    let busy := halfPixelBoard.run [.startGesture .drag "a" ⟨0, 0⟩, .movePointer ⟨5000, 20⟩]
    let lifted := (busy.perform .liftPointer).2
    (∃ labels, halfPixelBoard.layout.tidy halfPixelBoard.settings.limit halfPixelBoard.labels =
      .ok (halfPixelBoard.layout, labels)) ∧
    g.most s = .finite (2001 / 2) ∧ g.most s < g.sideways s ⟨5000, 20⟩ ∧
    ¬ lifted.layout.tidy lifted.settings.limit lifted.labels =
      .ok (lifted.layout, lifted.labels) := by
  intro g s busy lifted
  have hSame : (halfPixelBoard.layout.tidy halfPixelBoard.settings.limit
      halfPixelBoard.labels).toOption.map Prod.fst = some halfPixelBoard.layout := by
    decide +kernel
  obtain ⟨labels, hTidy⟩ := Layout.exists_labels_of_tidy hSame
  have hRoom : halfPixelBoard.HasRoom := by
    unfold HasRoom
    decide
  have hFind : halfPixelBoard.layout.find? "a" =
      some (.of "a" (.new .stats) ⟨0, 0, 200, 150⟩) := by decide +kernel
  have hMost : g.most s = .finite (2001 / 2) := by decide +kernel
  have hBeyond : g.most s < g.sideways s ⟨5000, 20⟩ := by decide +kernel
  have hNotWhole : ¬ (g.most s).IsWhole := by
    rintro ⟨n, hn⟩
    rw [hMost, Exact.whole_def, Exact.finite.injEq] at hn
    have hTwice : (2001 : Int) = 2 * n := by
      have hRat : (2001 : Rat) = 2 * n := by linarith
      exact_mod_cast hRat
    omega
  have hMoves : ∀ q ∈ [(⟨5000, 20⟩ : Point Exact)], q.IsFinite := by
    rintro q hq
    rw [List.mem_singleton.1 hq]
    exact ⟨rfl, rfl⟩
  obtain ⟨-, -, hStable, -⟩ := lifted_tidy_iff hTidy hRoom rfl (by rfl) rfl hFind .drag
    (p := ⟨0, 0⟩) ⟨rfl, rfl⟩ hMoves
  refine ⟨⟨labels, hTidy⟩, hMost, hBeyond, fun hAgain => hNotWhole ?_⟩
  exact (hStable.1 hAgain ⟨5000, 20⟩ rfl).right hBeyond

end Board
end NoteBoard
