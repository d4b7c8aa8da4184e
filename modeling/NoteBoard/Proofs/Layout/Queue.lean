import NoteBoard.Proofs.Layout.Settle
import NoteBoard.Proofs.Number.Order

/-! The order in which settling places widgets, and what stands in the way of each of them. The
pinned widget comes first. The others come by rows, in a row by columns, and in one place in the
order of the list; each is dropped on those that came before it. -/
namespace NoteBoard

variable {K : Type} [Number K]

namespace Rect

theorem placedBefore_iff {a b : Rect K} :
    a.placedBefore b = true ↔ Number.totalOrder a.y b.y = .lt ∨
      Number.totalOrder a.y b.y = .eq ∧ (Number.totalOrder a.x b.x).isLE = true := by
  rw [placedBefore, Ordering.isLE_then_iff_or]

variable [hOrder : Number.LawfulOrder K]

theorem placedBefore_total (a b : Rect K) (h : a.placedBefore b = false) :
    b.placedBefore a = true := by
  rw [placedBefore, hOrder.eq_swap a.y, hOrder.eq_swap a.x, ← Ordering.swap_then] at h
  rw [placedBefore]
  cases hOrdering : (Number.totalOrder b.y a.y).then (Number.totalOrder b.x a.x) with
  | gt => simp [hOrdering] at h
  | _ => rfl

theorem placedBefore_trans (a b c : Rect K) (hab : a.placedBefore b = true)
    (hbc : b.placedBefore c = true) : a.placedBefore c = true := by
  have hTrans := hOrder.transCmp
  rw [placedBefore_iff] at *
  rcases hab with hab | ⟨hab, habx⟩
  · rcases hbc with hbc | ⟨hbc, -⟩
    · exact .inl (Std.TransCmp.lt_trans hab hbc)
    · exact .inl (Std.TransCmp.lt_of_lt_of_eq hab hbc)
  · rcases hbc with hbc | ⟨hbc, hbcx⟩
    · exact .inl (Std.TransCmp.lt_of_eq_of_lt hab hbc)
    · exact .inr ⟨Std.TransCmp.eq_trans hab hbc, Std.TransCmp.isLE_trans habx hbcx⟩

/-- Only rectangles in one place may be placed in either order. -/
theorem eq_of_placedBefore {a b : Rect K} (hab : a.placedBefore b = true)
    (hba : b.placedBefore a = true) : a.y = b.y ∧ a.x = b.x := by
  have hEq := hOrder.lawfulEqCmp
  rw [placedBefore_iff] at hab hba
  rw [hOrder.eq_swap b.y, hOrder.eq_swap b.x] at hba
  rcases hab with hab | ⟨hab, habx⟩
  · simp [hab] at hba
  · refine ⟨hEq.eq_of_compare hab, hEq.eq_of_compare ?_⟩
    cases hx : Number.totalOrder a.x b.x <;> simp_all

end Rect

namespace Layout

/-- Of two widgets that are not pinned, the first is placed before the second: its place comes
first, or they share a place and it comes first in the list. -/
def Precedes (a b : Widget K × Nat) : Prop :=
  a.1.rect.placedBefore b.1.rect = true ∧ (b.1.rect.placedBefore a.1.rect = true → a.2 < b.2)

theorem Precedes.asymm {a b : Widget K × Nat} (h : Precedes a b) : ¬ Precedes b a :=
  fun hBack => Nat.lt_asymm (h.2 hBack.1) (hBack.2 h.1)

theorem mk_mem_queue {l : Layout K} {pinned : Option Nat} {w : Widget K} {i : Nat} :
    (w, i) ∈ l.queue pinned ↔ l.widgets[i]? = some w ∧ pinned ≠ some i := by
  rw [mem_queue, List.mk_mem_zipIdx_iff_getElem?]

theorem getElem?_settle_widgets (l : Layout K) (pinned : Option String) (limit i : Nat) :
    (l.settle pinned limit).widgets[i]? = l.widgets[i]?.map fun w =>
      w.withRect (l.settledRect (l.pinnedIndex pinned) limit (w, i)) := by
  rw [settle_widgets, List.getElem?_map, List.getElem?_zipIdx, Option.map_map, Nat.zero_add]
  rfl

omit [Number K] in
/-- The pinned widget is placed where it is. -/
theorem mem_fixedRects_iff {l : Layout K} {pinned : Option Nat} {r : Rect K} :
    r ∈ l.fixedRects pinned ↔ ∃ i w, pinned = some i ∧ l.widgets[i]? = some w ∧ w.rect = r := by
  cases pinned with
  | none => simp [fixedRects]
  | some i => simp [fixedRects]

/-- Where the queue is cut, the next widget is dropped on those in front, as these have come to
lie. -/
theorem settledRect_of_queue_eq {l : Layout K} {pinned : Option Nat} (limit : Nat)
    {front back : List (Widget K × Nat)} {entry : Widget K × Nat}
    (h : l.queue pinned = front ++ entry :: back) :
    l.settledRect pinned limit entry =
      Rect.drop ((front.map (l.settledRect pinned limit)).reverse ++ l.fixedRects pinned) limit
        entry.1.rect := by
  have hDropped := l.map_settledRect_queue pinned limit
  rw [droppedRects, h, List.map_append, List.map_append, Rect.drops_append, List.map_cons,
    List.map_cons, Rect.drops] at hDropped
  obtain ⟨hFront, hEntry⟩ := List.append_inj hDropped (by simp)
  rw [← hFront] at hEntry
  exact (List.cons.inj hEntry).1

variable [Number.LawfulOrder K]

/-- The queue is in the order of places, and within a place in that of the list. -/
theorem pairwise_queue (l : Layout K) (pinned : Option Nat) :
    (l.queue pinned).Pairwise Precedes := by
  have hPositions : l.widgets.zipIdx.Pairwise fun a b => a.2 < b.2 := by
    rw [← List.pairwise_map, List.zipIdx_map_snd]
    exact List.pairwise_lt_range'
  exact pairwise_sortBy_stable (fun a b => Rect.placedBefore_total a.1.rect b.1.rect)
    (fun a b c => Rect.placedBefore_trans a.1.rect b.1.rect c.1.rect)
    (hPositions.sublist List.filter_sublist)

/-- Where the queue is cut, in front of a widget is what precedes it. -/
theorem mem_front_iff {l : Layout K} {pinned : Option Nat} {front back : List (Widget K × Nat)}
    {entry other : Widget K × Nat} (h : l.queue pinned = front ++ entry :: back) :
    other ∈ front ↔ other ∈ l.queue pinned ∧ Precedes other entry := by
  have hPairwise := l.pairwise_queue pinned
  rw [h, List.pairwise_append, List.pairwise_cons] at hPairwise
  obtain ⟨-, ⟨hBack, -⟩, hFront⟩ := hPairwise
  refine ⟨fun hOther => ⟨?_, hFront other hOther entry List.mem_cons_self⟩, ?_⟩
  · rw [h]
    exact List.mem_append_left _ hOther
  · rintro ⟨hMem, hPrecedes⟩
    rw [h, List.mem_append, List.mem_cons] at hMem
    rcases hMem with hOther | rfl | hOther
    · exact hOther
    · exact absurd hPrecedes hPrecedes.asymm
    · exact absurd (hBack other hOther) hPrecedes.asymm

/-- A widget that is not pinned is dropped on those placed before it, as these have come to lie. -/
theorem exists_placed {l : Layout K} {pinned : Option String} (limit : Nat) {w : Widget K} {j : Nat}
    (hw : l.widgets[j]? = some w) (hFree : l.pinnedIndex pinned ≠ some j) :
    ∃ placed : List (Rect K), placed.length + 1 ≤ l.widgets.length ∧
      (l.settle pinned limit).widgets[j]? = some (w.withRect (Rect.drop placed limit w.rect)) ∧
      ∀ r, r ∈ placed ↔ ∃ i u v, l.widgets[i]? = some u ∧
        (l.pinnedIndex pinned = some i ∨ Precedes (u, i) (w, j)) ∧
        (l.settle pinned limit).widgets[i]? = some v ∧ v.rect = r := by
  have hLength := l.length_fixed_add_queue pinned
  simp only [getElem?_settle_widgets, hw]
  generalize l.pinnedIndex pinned = index at *
  obtain ⟨front, back, hQueue⟩ := List.append_of_mem (mk_mem_queue.2 ⟨hw, hFree⟩)
  refine ⟨(front.map (l.settledRect index limit)).reverse ++ l.fixedRects index, ?_, ?_, ?_⟩
  · rw [hQueue, List.length_append, List.length_cons] at hLength
    simp
    omega
  · exact congrArg (fun r => some (w.withRect r)) (settledRect_of_queue_eq limit hQueue)
  · intro r
    rw [List.mem_append, List.mem_reverse, List.mem_map, mem_fixedRects_iff]
    constructor
    · rintro (⟨⟨u, i⟩, hOther, rfl⟩ | ⟨i, u, rfl, hu, rfl⟩)
      · obtain ⟨hMem, hPrecedes⟩ := (mem_front_iff hQueue).1 hOther
        have hu := (mk_mem_queue.1 hMem).1
        exact ⟨i, u, _, hu, .inr hPrecedes, by rw [hu, Option.map_some], rfl⟩
      · refine ⟨i, u, _, hu, .inl rfl, by rw [hu, Option.map_some], ?_⟩
        exact l.settledRect_of_pinned limit (u, i)
    · rintro ⟨i, u, v, hu, hFirst, hSettled, rfl⟩
      rw [hu, Option.map_some, Option.some.injEq] at hSettled
      subst hSettled
      by_cases hPinned : index = some i
      · refine .inr ⟨i, u, hPinned, hu, ?_⟩
        rw [hPinned]
        exact (l.settledRect_of_pinned limit (u, i)).symm
      · have hMem := mk_mem_queue.2 ⟨hu, hPinned⟩
        have hPrecedes := hFirst.resolve_left hPinned
        exact .inl ⟨(u, i), (mem_front_iff hQueue).2 ⟨hMem, hPrecedes⟩, rfl⟩

end Layout
end NoteBoard
