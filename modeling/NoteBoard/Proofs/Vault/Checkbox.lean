import Mathlib.Data.List.TakeWhile
import NoteBoard.Vault.Checkbox

/-! What a checkbox item is: the lines that are taken apart, each in one way. -/
namespace NoteBoard

theorem Text.isBlank_of_isDecimalDigit {c : Char} (h : isDecimalDigit c = true) :
    isBlank c = false := by
  have hRuns : ∀ start ∈ zeros, ∀ k < 10, isBlank (Char.ofNat (start + k)) = false := by
    decide +kernel
  obtain ⟨start, hStart, hc⟩ := List.any_eq_true.1 h
  simp only [Bool.and_eq_true, decide_eq_true_iff] at hc
  have hPlace := hRuns start hStart (c.toNat - start) (by omega)
  rwa [Nat.add_sub_cancel' hc.1, Char.ofNat_toNat] at hPlace

namespace Checkbox

open Text

/-- What a list item starts with: one of three signs, or a number with a point or a parenthesis. -/
inductive IsBullet : List Char → Prop where
  | sign {c : Char} (hSign : c = '-' ∨ c = '*' ∨ c = '+') : IsBullet [c]
  | number {digits : List Char} {c : Char} (hSome : digits ≠ [])
      (hDigits : ∀ d ∈ digits, isDecimalDigit d = true) (hEnd : c = '.' ∨ c = ')') :
      IsBullet (digits ++ [c])

/-- White space, a bullet, white space again, and a bracket; a mark that does not close it; and the
bracket that does, with no line break behind it. -/
structure IsItem (b : Checkbox) : Prop where
  before : ∃ indent bullet gap, b.before = indent ++ bullet ++ gap ++ ['['] ∧
    (∀ c ∈ indent, isBlank c = true) ∧ IsBullet bullet ∧
    gap ≠ [] ∧ ∀ c ∈ gap, isBlank c = true
  mark : b.mark ≠ ']'
  after : ∃ rest, b.after = ']' :: rest ∧ '\n' ∉ rest

theorem IsBullet.exists_cons {bullet : List Char} (h : IsBullet bullet) :
    ∃ c rest, bullet = c :: rest ∧ isBlank c = false := by
  cases h with
  | sign hSign =>
      refine ⟨_, [], rfl, ?_⟩
      rcases hSign with rfl | rfl | rfl <;> decide
  | @number digits c hSome hDigits hEnd =>
      obtain ⟨d, rest, rfl⟩ := List.exists_cons_of_ne_nil hSome
      exact ⟨d, rest ++ [c], rfl, isBlank_of_isDecimalDigit (hDigits d List.mem_cons_self)⟩

theorem afterBullet?_append {bullet : List Char} (h : IsBullet bullet) (rest : List Char) :
    afterBullet? (bullet ++ rest) = some rest := by
  cases h with
  | sign hSign => exact if_pos hSign
  | @number digits c hSome hDigits hEnd =>
      obtain ⟨d, digits, rfl⟩ := List.exists_cons_of_ne_nil hSome
      obtain ⟨hFirst, hDigits⟩ := List.forall_mem_cons.1 hDigits
      have hSign : ¬(d = '-' ∨ d = '*' ∨ d = '+') := by
        rintro (rfl | rfl | rfl) <;> revert hFirst <;> decide
      have hStop : ¬isDecimalDigit c = true := by
        rcases hEnd with rfl | rfl <;> decide
      have hDrop : (digits ++ [c] ++ rest).dropWhile isDecimalDigit = c :: rest := by
        rw [List.append_assoc, List.dropWhile_append_of_pos hDigits, List.singleton_append,
          List.dropWhile_cons_of_neg hStop]
      simp only [List.cons_append, afterBullet?, if_neg hSign, if_pos hFirst, hDrop, if_pos hEnd]

theorem exists_of_afterBullet? {text rest : List Char} (h : afterBullet? text = some rest) :
    ∃ bullet, IsBullet bullet ∧ text = bullet ++ rest := by
  cases text with
  | nil => cases h
  | cons c text =>
      simp only [afterBullet?] at h
      split at h
      · next hSign =>
        cases h
        exact ⟨[c], .sign hSign, rfl⟩
      · split at h
        · next hFirst =>
          split at h
          · next d rest' hDrop =>
            split at h
            · next hEnd =>
              cases h
              refine ⟨c :: text.takeWhile isDecimalDigit ++ [d],
                .number (List.cons_ne_nil _ _) ?_ hEnd, ?_⟩
              · exact List.forall_mem_cons.2 ⟨hFirst, fun d hd => List.mem_takeWhile_imp hd⟩
              · rw [List.append_assoc, List.singleton_append, ← hDrop, List.cons_append,
                  List.takeWhile_append_dropWhile]
            · cases h
          · cases h
        · cases h

theorem afterBracket?_append {gap : List Char} (hSome : gap ≠ [])
    (hGap : ∀ c ∈ gap, isBlank c = true) (rest : List Char) :
    afterBracket? (gap ++ '[' :: rest) = some rest := by
  obtain ⟨c, gap, rfl⟩ := List.exists_cons_of_ne_nil hSome
  obtain ⟨hFirst, hGap⟩ := List.forall_mem_cons.1 hGap
  have hDrop : (gap ++ '[' :: rest).dropWhile isBlank = '[' :: rest := by
    rw [List.dropWhile_append_of_pos hGap, List.dropWhile_cons_of_neg (by decide)]
  simp only [List.cons_append, afterBracket?, if_pos hFirst, hDrop]

theorem exists_of_afterBracket? {text rest : List Char} (h : afterBracket? text = some rest) :
    ∃ gap, gap ≠ [] ∧ (∀ c ∈ gap, isBlank c = true) ∧ text = gap ++ '[' :: rest := by
  cases text with
  | nil => cases h
  | cons c text =>
      simp only [afterBracket?] at h
      split at h
      · next hFirst =>
        split at h
        · next rest' hDrop =>
          cases h
          refine ⟨c :: text.takeWhile isBlank, List.cons_ne_nil _ _, ?_, ?_⟩
          · exact List.forall_mem_cons.2 ⟨hFirst, fun d hd => List.mem_takeWhile_imp hd⟩
          · rw [← hDrop, List.cons_append, List.takeWhile_append_dropWhile]
        · cases h
      · cases h

theorem take_length_sub (before marked : List Char) :
    (before ++ marked).take ((before ++ marked).length - marked.length) = before := by
  simp

theorem isItem_of_ofLine? {line : List Char} {b : Checkbox} (h : ofLine? line = some b) :
    b.IsItem ∧ b.line = line := by
  simp only [ofLine?, Option.bind_eq_bind, Option.bind_eq_some_iff] at h
  obtain ⟨listed, hListed, marked, hMarked, h⟩ := h
  obtain ⟨bullet, hBullet, hLine⟩ := exists_of_afterBullet? hListed
  obtain ⟨gap, hSome, hGap, rfl⟩ := exists_of_afterBracket? hMarked
  have hWhole : line = line.takeWhile isBlank ++ bullet ++ gap ++ ['['] ++ marked :=
    calc line = line.takeWhile isBlank ++ line.dropWhile isBlank :=
          List.takeWhile_append_dropWhile.symm
      _ = _ := by simp [hLine]
  split at h
  · next mark rest =>
    split at h
    · next hBox =>
      cases h
      have hTake : line.take (line.length - (mark :: ']' :: rest).length) =
          line.takeWhile isBlank ++ bullet ++ gap ++ ['['] := by
        have hBefore := take_length_sub (line.takeWhile isBlank ++ bullet ++ gap ++ ['['])
          (mark :: ']' :: rest)
        rwa [← hWhole] at hBefore
      rw [hTake]
      refine ⟨⟨⟨_, bullet, gap, rfl, ?_, hBullet, hSome, hGap⟩, hBox.1, rest, rfl, hBox.2⟩,
        hWhole.symm⟩
      exact fun c hc => List.mem_takeWhile_imp hc
    · cases h
  · cases h

theorem IsItem.ofLine? {b : Checkbox} (h : b.IsItem) : ofLine? b.line = some b := by
  obtain ⟨indent, bullet, gap, hBefore, hIndent, hBullet, hSome, hGap⟩ := h.before
  obtain ⟨rest, hAfter, hRest⟩ := h.after
  obtain ⟨c, tail, hFirst, hBlank⟩ := hBullet.exists_cons
  have hLine : b.line = indent ++ (bullet ++ (gap ++ '[' :: b.mark :: ']' :: rest)) := by
    simp [line, hBefore, hAfter]
  have hDrop : b.line.dropWhile isBlank = bullet ++ (gap ++ '[' :: b.mark :: ']' :: rest) := by
    rw [hLine, List.dropWhile_append_of_pos hIndent, hFirst, List.cons_append,
      List.dropWhile_cons_of_neg (by simp [hBlank])]
  have hTake : b.line.take (b.line.length - (b.mark :: ']' :: rest).length) = b.before := by
    rw [line, hAfter, take_length_sub]
  simp only [Checkbox.ofLine?, hDrop, afterBullet?_append hBullet, afterBracket?_append hSome hGap,
    Option.bind_eq_bind, Option.bind_some, hTake]
  rw [if_pos ⟨h.mark, hRest⟩, ← hAfter]
  rfl

/-- Exactly the items are taken apart, and nothing of their lines is lost. -/
theorem ofLine?_eq_some_iff {line : List Char} {b : Checkbox} :
    Checkbox.ofLine? line = some b ↔ b.IsItem ∧ b.line = line := by
  constructor
  · exact isItem_of_ofLine?
  · rintro ⟨hItem, rfl⟩
    exact hItem.ofLine?

end Checkbox
end NoteBoard
