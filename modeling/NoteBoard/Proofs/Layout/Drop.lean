import NoteBoard.Layout.Settle
import NoteBoard.Proofs.Number.Whole

/-! Dropping rectangles one after another until each is apart from those before it. They are the
same rectangles further down, or where they were. Dropping ends, since what has pushed a rectangle
once does not do so again. -/
namespace NoteBoard
namespace Rect

variable {K : Type} [Number K]

/-- Two rectangles whose insides do not meet. -/
def Apart (a b : Rect K) : Prop := ¬ a.Overlaps b

theorem Apart.symm {a b : Rect K} (h : a.Apart b) : b.Apart a :=
  fun hOverlap => h hOverlap.symm

theorem blockedUntil?_eq_none_iff {placed : List (Rect K)} {r : Rect K} :
    blockedUntil? placed r = none ↔ ∀ other ∈ placed, other.Apart r := by
  have hEmpty : (placed.filter fun other => other.Overlaps r).map bottom = [] ↔
      ∀ other ∈ placed, other.Apart r := by
    simp [List.filter_eq_nil_iff, Apart]
  rw [← hEmpty, blockedUntil?]
  split
  · next h => simp [h]
  · next h => simp [h]

/-- A rectangle that overlaps nothing is not dropped. -/
theorem drop_of_apart {placed : List (Rect K)} {r : Rect K}
    (h : ∀ other ∈ placed, other.Apart r) (tries : Nat) : drop placed tries r = r := by
  cases tries with
  | zero => rfl
  | succ tries => rw [drop, blockedUntil?_eq_none_iff.2 h]

/-- The rectangles in the order in which they are dropped, without those already placed. -/
def drops (tries : Nat) (placed : List (Rect K)) : List (Rect K) → List (Rect K)
  | [] => []
  | r :: rest => drop placed tries r :: drops tries (drop placed tries r :: placed) rest

theorem dropAll_eq_reverse_drops (tries : Nat) (placed rects : List (Rect K)) :
    dropAll tries placed rects = (drops tries placed rects).reverse ++ placed := by
  induction rects generalizing placed with
  | nil => rfl
  | cons r rest ih => simp [dropAll, drops, ih]

@[simp] theorem length_drops (tries : Nat) (placed rects : List (Rect K)) :
    (drops tries placed rects).length = rects.length := by
  induction rects generalizing placed with
  | nil => rfl
  | cons r rest ih => simp [drops, ih]

@[simp] theorem drops_zero (placed rects : List (Rect K)) : drops 0 placed rects = rects := by
  induction rects generalizing placed with
  | nil => rfl
  | cons r rest ih => rw [drops, drop, ih]

/-- The later rectangles are dropped on the earlier ones as these have come to lie. -/
theorem drops_append (tries : Nat) (placed first second : List (Rect K)) :
    drops tries placed (first ++ second) = drops tries placed first ++
      drops tries ((drops tries placed first).reverse ++ placed) second := by
  induction first generalizing placed with
  | nil => rfl
  | cons r rest ih => simp [drops, ih]

/-- Rectangles that are apart from each other and from those placed stay where they are. -/
theorem drops_of_apart (tries : Nat) {placed rects : List (Rect K)}
    (hPlaced : ∀ r ∈ rects, ∀ other ∈ placed, other.Apart r) (hRects : rects.Pairwise Apart) :
    drops tries placed rects = rects := by
  induction rects generalizing placed with
  | nil => rfl
  | cons r rest ih =>
      obtain ⟨hFirst, hRest⟩ := List.pairwise_cons.1 hRects
      rw [drops, drop_of_apart (hPlaced r List.mem_cons_self) tries]
      congr 1
      apply ih _ hRest
      intro s hs other hOther
      rcases List.mem_cons.1 hOther with rfl | hOther
      · exact hFirst s hs
      · exact hPlaced s (List.mem_cons_of_mem _ hs) other hOther

/-- The larger of two numbers is one of them. -/
theorem max_eq_or (a b : K) : Number.max a b = a ∨ Number.max a b = b := by
  unfold Number.max
  split
  · exact .inr rfl
  · split
    · exact .inr rfl
    · exact .inl rfl

theorem foldl_max_mem (first : K) (rest : List K) :
    rest.foldl Number.max first ∈ first :: rest := by
  induction rest generalizing first with
  | nil => exact List.mem_singleton_self first
  | cons second rest ih =>
      rw [List.foldl_cons]
      rcases List.mem_cons.1 (ih (Number.max first second)) with hFirst | hRest
      · rw [hFirst]
        rcases max_eq_or first second with hMax | hMax <;> simp [hMax]
      · exact List.mem_cons_of_mem _ (List.mem_cons_of_mem _ hRest)

/-- A rectangle is blocked until the lower edge of one that it overlaps. -/
theorem exists_of_blocked {placed : List (Rect K)} {r : Rect K} {y : K}
    (h : blockedUntil? placed r = some y) :
    ∃ other ∈ placed, other.Overlaps r ∧ other.bottom = y := by
  have hEdge (e : K) : e ∈ (placed.filter fun other => other.Overlaps r).map bottom ↔
      ∃ other ∈ placed, other.Overlaps r ∧ other.bottom = e := by
    simp [and_assoc]
  unfold blockedUntil? at h
  generalize (placed.filter fun other => other.Overlaps r).map bottom = edges at *
  cases edges with
  | nil => simp at h
  | cons first rest =>
      obtain rfl : rest.foldl Number.max first = y := by simpa using h
      exact (hEdge _).1 (foldl_max_mem first rest)

/-- So it is pushed strictly down. -/
theorem lt_of_blocked {placed : List (Rect K)} {r : Rect K} {y : K}
    (h : blockedUntil? placed r = some y) : r.y < y ∧ ∃ other ∈ placed, other.bottom = y := by
  obtain ⟨other, hOther, hOverlap, rfl⟩ := exists_of_blocked h
  exact ⟨hOverlap.2.2.2, other, hOther, rfl⟩

/-- What a push to the edge of another rectangle keeps, dropping keeps. -/
theorem drop_invariant {P : Rect K → Prop} {placed : List (Rect K)}
    (hPush : ∀ r, P r → ∀ other ∈ placed, P { r with y := other.bottom }) (tries : Nat)
    {r : Rect K} (h : P r) : P (drop placed tries r) := by
  induction tries generalizing r with
  | zero => exact h
  | succ tries ih =>
      rw [drop]
      split
      · next y hBlocked =>
        obtain ⟨-, other, hOther, rfl⟩ := lt_of_blocked hBlocked
        exact ih (hPush r h other hOther)
      · exact h

/-- What a push to the edge of another rectangle keeps holds of all rectangles in the end. -/
theorem dropAll_invariant {P : Rect K → Prop}
    (hPush : ∀ r other, P r → P other → P { r with y := other.bottom }) (tries : Nat)
    {placed rects : List (Rect K)} (hPlaced : ∀ other ∈ placed, P other)
    (hRects : ∀ r ∈ rects, P r) : ∀ r ∈ dropAll tries placed rects, P r := by
  induction rects generalizing placed with
  | nil => exact hPlaced
  | cons r rest ih =>
      obtain ⟨hFirst, hRest⟩ := List.forall_mem_cons.1 hRects
      have hDropped : P (drop placed tries r) :=
        drop_invariant (fun r hr other hOther => hPush r other hr (hPlaced other hOther)) tries
          hFirst
      exact ih (List.forall_mem_cons.2 ⟨hDropped, hPlaced⟩) hRest

/-- The same rectangle, strictly further down or where it was. -/
def Sunk (r s : Rect K) : Prop := s = r ∨ s = r.placed r.x s.y ∧ r.y < s.y

theorem drop_sunk (placed : List (Rect Exact)) (tries : Nat) (r : Rect Exact) :
    Sunk r (drop placed tries r) := by
  induction tries generalizing r with
  | zero => exact .inl rfl
  | succ tries ih =>
      rw [drop]
      split
      · next y hBlocked =>
        have hDown := (lt_of_blocked hBlocked).1
        rcases ih { r with y := y } with hStays | ⟨hSame, hFurther⟩
        · rw [hStays]
          exact .inr ⟨rfl, hDown⟩
        · exact .inr ⟨hSame, Exact.lt_trans hDown hFurther⟩
      · exact .inl rfl

theorem drops_sunk (tries : Nat) (placed rects : List (Rect Exact)) :
    List.Forall₂ Sunk rects (drops tries placed rects) := by
  induction rects generalizing placed with
  | nil => exact .nil
  | cons r rest ih => exact .cons (drop_sunk placed tries r) (ih _)

/-- The placed rectangles that end below the upper edge of a rectangle: those that can still be
in its way. -/
def ahead (placed : List (Rect Exact)) (r : Rect Exact) : Nat :=
  placed.countP fun other => r.y < other.bottom

/-- A push leaves at least one rectangle behind. -/
theorem ahead_push {placed : List (Rect Exact)} {r : Rect Exact} {y : Exact}
    (h : blockedUntil? placed r = some y) :
    ahead placed { r with y := y } < ahead placed r := by
  obtain ⟨hDown, other, hOther, hEdge⟩ := lt_of_blocked h
  have hSub : (placed.filter fun o => r.y < o.bottom).filter (fun o => y < o.bottom) =
      placed.filter fun o => y < o.bottom := by
    rw [List.filter_filter]
    apply List.filter_congr
    intro o _
    have hImp : y < o.bottom → r.y < o.bottom := Exact.lt_trans hDown
    by_cases hy : y < o.bottom <;> simp [hy, hImp]
  have hIrrefl : ¬ y < other.bottom := by
    rw [hEdge]
    exact Exact.lt_irrefl y
  unfold ahead
  rw [List.countP_eq_length_filter, List.countP_eq_length_filter, ← hSub,
    List.length_filter_lt_length_iff_exists]
  have hAhead : r.y < other.bottom := hEdge ▸ hDown
  exact ⟨other, List.mem_filter.2 ⟨hOther, decide_eq_true hAhead⟩, by simpa using hIrrefl⟩

/-- A rectangle comes to lie apart from those placed when it has as many tries as there are
rectangles ahead, since each of them stops it at most once. -/
theorem apart_drop {placed : List (Rect Exact)} (tries : Nat) {r : Rect Exact}
    (hTries : ahead placed r ≤ tries) :
    ∀ other ∈ placed, other.Apart (drop placed tries r) := by
  -- The tries that are left never get fewer than the rectangles ahead.
  induction tries generalizing r with
  | zero =>
      intro other hOther hOverlap
      have hNone := List.countP_eq_zero.1 (Nat.le_zero.1 hTries) other hOther
      exact hNone (decide_eq_true hOverlap.2.2.2)
  | succ tries ih =>
      rw [drop]
      split
      · next y hBlocked =>
        have hLess := ahead_push hBlocked
        exact ih (by omega)
      · next hFree => exact blockedUntil?_eq_none_iff.1 hFree

theorem ahead_le_length (placed : List (Rect Exact)) (r : Rect Exact) :
    ahead placed r ≤ placed.length :=
  List.countP_le_length

/-- Dropped one after another, with a try for each of the others, rectangles end apart. -/
theorem pairwise_apart_dropAll (tries : Nat) {placed rects : List (Rect Exact)}
    (hApart : placed.Pairwise Apart) (hTries : placed.length + rects.length ≤ tries + 1) :
    (dropAll tries placed rects).Pairwise Apart := by
  induction rects generalizing placed with
  | nil => exact hApart
  | cons r rest ih =>
      rw [List.length_cons] at hTries
      have hAhead : ahead placed r ≤ tries := (ahead_le_length placed r).trans (by omega)
      have hDropped := apart_drop tries hAhead
      rw [dropAll]
      apply ih
      · exact List.pairwise_cons.2 ⟨fun other hOther => (hDropped other hOther).symm, hApart⟩
      · rw [List.length_cons]
        omega

end Rect
end NoteBoard
