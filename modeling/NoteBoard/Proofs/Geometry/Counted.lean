import NoteBoard.Proofs.Geometry.Pixels
import NoteBoard.Proofs.Number.Ordered

/-! Rectangles of pixels in cells, whatever their numbers are. Bounds bring every count of cells
between the first column and the last one, unless it is not a number. -/
namespace NoteBoard
namespace Grid

variable {K : Type} [Number K]

/-- A length in pixels with a count of cells: it is a number, and it is finite or the pitch of the
cells is. -/
def IsCountable (pitch length : K) : Prop :=
  Number.isNaN length = false ∧ (Number.isFinite length = true ∨ Number.isFinite pitch = true)

instance (pitch length : K) : Decidable (IsCountable pitch length) :=
  inferInstanceAs (Decidable (_ ∧ _))

/-- A rectangle of cells within the columns, found for one of pixels. Only its place among the
columns may be missing. -/
structure IsCounted (g : Grid K) (columnWidth : K) (pixels cells : Rect K) : Prop where
  one_le_w : 1 ≤ cells.w
  w_le : cells.w ≤ Number.ofNat g.columns
  x_iff : 0 ≤ cells.x ∧ cells.x ≤ Number.ofNat g.columns - cells.w ↔
    IsCountable (columnWidth + g.gap) (pixels.x - g.padding)
  zero_le_y : 0 ≤ cells.y
  one_le_h : 1 ≤ cells.h

/-- Where cells have a finite size, every number is countable, however large. -/
theorem isCountable_iff_of_isFinite {pitch : K} (hPitch : Number.isFinite pitch = true)
    (length : K) : IsCountable pitch length ↔ Number.isNaN length = false := by
  simp [IsCountable, hPitch]

variable [hExtended : Number.Extended K] [hK : Number.Ordered K]

theorem isNaN_round_div_iff {pitch : K} (hPitch : 0 < pitch) (length : K) :
    Number.isNaN (Number.round (length / pitch)) = false ↔ IsCountable pitch length := by
  rw [hExtended.isNaN_round, hK.isNaN_div hPitch, IsCountable]
  simp [or_iff_not_imp_left]

variable {g : Grid K} {columnWidth : K}

theorem columnWidth?_pos {c : Container K} (h : g.columnWidth? c = some columnWidth) :
    Number.isFinite columnWidth = true ∧ 0 < columnWidth := by
  obtain ⟨-, hFinite, hPositive⟩ := of_columnWidth? h
  exact ⟨hFinite, Number.pos_of_not_le hFinite hPositive⟩

variable (hColumns : 0 < g.columns)
  (hCount : g.columns < twoTo 32) (hPitch : 0 < columnWidth + g.gap) {r : Rect K}

include hColumns hCount hPitch

/-- What has no count of cells is not a number of columns either, and then no room is left for a
place among them. -/
theorem toCells?_eq_none (h : ¬ IsCountable (columnWidth + g.gap) (r.w + g.gap)) :
    g.toCells? columnWidth r = none := by
  obtain ⟨hFinite, hMost⟩ := hK.one_le_ofNat (K := K) hColumns hCount
  rw [← isNaN_round_div_iff hPitch, Bool.not_eq_false] at h
  have hRoom : ¬ (0 : K) ≤ Number.ofNat g.columns -
      Number.round ((r.w + g.gap) / (columnWidth + g.gap)) := by
    intro hNonneg
    have hNumber := (hK.isNaN_of_le hNonneg).2
    simp [hK.isNaN_sub (.inl hFinite), h] at hNumber
  simp [toCells?, Number.clamp?, max_eq_left (show 1 ≤ g.columns from hColumns), hMost,
    Number.clamp_of_isNaN _ _ h, hRoom]

theorem exists_isCounted (h : IsCountable (columnWidth + g.gap) (r.w + g.gap)) :
    ∃ cells, g.toCells? columnWidth r = some cells ∧ g.IsCounted columnWidth r cells := by
  obtain ⟨hFinite, hMost⟩ := hK.one_le_ofNat (K := K) hColumns hCount
  obtain ⟨hLeast, hWithin⟩ :=
    (Number.clamp_between_iff hMost _).2 ((isNaN_round_div_iff hPitch _).2 h)
  generalize hw : Number.clamp 1 (Number.ofNat g.columns)
    (Number.round ((r.w + g.gap) / (columnWidth + g.gap))) = w at hLeast hWithin
  have hRoom : (0 : K) ≤ Number.ofNat g.columns - w := hK.sub_nonneg
    (Number.isFinite_of_between hExtended.isFinite_one hFinite hLeast hWithin) hFinite hWithin
  have hCells : g.toCells? columnWidth r = some ⟨
      Number.clamp 0 (Number.ofNat g.columns - w)
        (Number.round ((r.x - g.padding) / (columnWidth + g.gap))),
      Number.atLeast 0 (Number.round ((r.y - g.padding) / (g.rowHeight + g.gap))), w,
      Number.atLeast 1 (Number.round ((r.h + g.gap) / (g.rowHeight + g.gap)))⟩ := by
    simp [toCells?, Number.clamp?, max_eq_left (show 1 ≤ g.columns from hColumns), hMost, hw, hRoom]
  have hPlace := (Number.clamp_between_iff hRoom _).trans
    (isNaN_round_div_iff hPitch (r.x - g.padding))
  exact ⟨_, hCells, hLeast, hWithin, hPlace, Number.le_atLeast hExtended.isFinite_zero _,
    Number.le_atLeast hExtended.isFinite_one _⟩

end Grid
end NoteBoard
