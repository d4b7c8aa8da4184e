import NoteBoard.Number.Exact
import NoteBoard.Proofs.Text.Listed
import NoteBoard.Proofs.Vault.Checkbox
import NoteBoard.Vault.Basic

/-! What a flipped checkbox changes: one character of a file, and whether the first task on its line
is done. Flipping again finds the same item, so marks go to and fro between a blank and an x. -/
namespace NoteBoard

namespace Text

theorem intercalate_cons_eq_flatMap (line : List Char) (below : List (List Char)) :
    ['\n'].intercalate (line :: below) = line ++ below.flatMap ('\n' :: ·) := by
  induction below generalizing line with
  | nil => simp [List.intercalate_singleton]
  | cons next below ih =>
      rw [List.intercalate_cons_cons, ih, List.flatMap_cons]
      simp

theorem intercalate_append_cons (above : List (List Char)) (line : List Char)
    (below : List (List Char)) :
    ['\n'].intercalate (above ++ line :: below) =
      above.flatMap (· ++ ['\n']) ++ line ++ below.flatMap ('\n' :: ·) := by
  induction above with
  | nil => exact intercalate_cons_eq_flatMap line below
  | cons first above ih =>
      have hSome : above ++ line :: below ≠ [] := by simp
      rw [List.cons_append, List.intercalate_cons_of_ne_nil hSome, ih]
      simp

theorem splitWhere_append_cons {above below : List (List Char)} {line : List Char}
    (h : ∀ l ∈ above ++ line :: below, '\n' ∉ l) :
    splitWhere (· == '\n') (above.flatMap (· ++ ['\n']) ++ line ++ below.flatMap ('\n' :: ·)) =
      above ++ line :: below := by
  rw [← intercalate_append_cons, splitWhere_eq_splitOnP, ← List.splitOn_eq_splitOnP]
  exact List.splitOn_intercalate _ h (by simp)

end Text

/-- A checkbox item in a file, between the lines above it and those below. -/
structure FileItem where
  above : List (List Char)
  item : Checkbox
  below : List (List Char)

namespace FileItem

/-- The content of the file with a mark in the brackets. All else is as it is. -/
def content (f : FileItem) (mark : Char) : String :=
  String.ofList (f.above.flatMap (· ++ ['\n']) ++ f.item.before ++
    mark :: (f.item.after ++ f.below.flatMap ('\n' :: ·)))

/-- It is an item, on the line with a number. -/
structure IsAt (f : FileItem) (n : Nat) : Prop where
  place : f.above.length = n
  item : f.item.IsItem
  unbroken : ∀ line ∈ f.above ++ f.item.line :: f.below, '\n' ∉ line

/-- With the mark flipped. -/
def toggle (f : FileItem) : FileItem :=
  { f with item := f.item.toggle }

/-- The whole content, in lines. -/
theorem content_eq (f : FileItem) :
    (f.content f.item.mark).toList =
      f.above.flatMap (· ++ ['\n']) ++ f.item.line ++ f.below.flatMap ('\n' :: ·) := by
  simp [content, Checkbox.line]

/-- The item is found again after it was flipped. -/
theorem IsAt.toggle {f : FileItem} {n : Nat} (h : f.IsAt n) : f.toggle.IsAt n where
  place := h.place
  item := by
    refine ⟨h.item.before, ?_, h.item.after⟩
    simp only [FileItem.toggle, Checkbox.toggle]
    split <;> decide
  unbroken := by
    have hMark : f.item.toggle.mark ≠ '\n' := by
      simp only [Checkbox.toggle]
      split <;> decide
    have hOld := h.unbroken
    simp only [List.mem_append, List.mem_cons, or_imp, forall_and, forall_eq, Checkbox.line,
      not_or] at hOld ⊢
    exact ⟨hOld.1, ⟨hOld.2.1.1, hMark.symm, hOld.2.1.2.2⟩, hOld.2.2⟩

theorem toggle_toggle_toggle (f : FileItem) : f.toggle.toggle.toggle = f.toggle := by
  by_cases h : f.item.mark = ' ' <;> simp [toggle, Checkbox.toggle, h]

theorem content_injective (f : FileItem) : Function.Injective f.content := by
  intro mark mark' h
  have hList := String.ofList_injective h
  simpa using hList

theorem toggle_toggle_mark_iff (f : FileItem) :
    f.toggle.toggle.item.mark = f.item.mark ↔ f.item.mark = ' ' ∨ f.item.mark = 'x' := by
  by_cases h : f.item.mark = ' '
  · simp [toggle, Checkbox.toggle, h]
  · simp [toggle, Checkbox.toggle, h, eq_comm]

end FileItem

namespace Vault

theorem toggledFile?_of_isAt {f : FileItem} {n : Nat} (h : f.IsAt n) :
    toggledFile? (f.content f.item.mark) n =
      some (f.content f.toggle.item.mark, f.toggle.item.isChecked) := by
  have hLine : (f.above ++ f.item.line :: f.below)[n]? = some f.item.line := by
    simp [← h.place]
  have hItem : Checkbox.ofLine? f.item.line = some f.item :=
    Checkbox.ofLine?_eq_some_iff.2 ⟨h.item, rfl⟩
  have hSet : (f.above ++ f.item.line :: f.below).set n f.toggle.item.line =
      f.above ++ f.toggle.item.line :: f.below := by
    simp [← h.place]
  have hContent : f.content f.toggle.item.mark = String.ofList
      (['\n'].intercalate (f.above ++ f.toggle.item.line :: f.below)) := by
    rw [Text.intercalate_append_cons]
    exact String.toList_injective (f.toggle.content_eq.trans String.toList_ofList.symm)
  rw [hContent, ← hSet, toggledFile?, f.content_eq, Text.splitWhere_append_cons h.unbroken, hLine]
  simp only [Option.bind_eq_bind, Option.bind_some, hItem]
  rfl

theorem exists_isAt_of_toggledFile? {content : String} {n : Nat} {result : String × Bool}
    (h : toggledFile? content n = some result) :
    ∃ f : FileItem, f.IsAt n ∧ content = f.content f.item.mark := by
  simp only [toggledFile?, Option.bind_eq_bind, Option.bind_eq_some_iff] at h
  obtain ⟨line, hLine, item, hItem, -⟩ := h
  obtain ⟨hIsItem, rfl⟩ := Checkbox.ofLine?_eq_some_iff.1 hItem
  obtain ⟨hLength, hGet⟩ := List.getElem?_eq_some_iff.1 hLine
  generalize hLines : Text.splitWhere (· == '\n') content.toList = lines at hLength hGet
  have hSplit : lines = lines.take n ++ item.line :: lines.drop (n + 1) := by
    rw [← hGet, ← List.drop_eq_getElem_cons hLength, List.take_append_drop]
  have hUnbroken : ∀ l ∈ lines, '\n' ∉ l := by
    intro l hl hBreak
    rw [← hLines] at hl
    simpa using Text.eq_false_of_mem_splitWhere hl '\n' hBreak
  refine ⟨⟨lines.take n, item, lines.drop (n + 1)⟩, ⟨?_, hIsItem, ?_⟩, ?_⟩
  · exact List.length_take_of_le hLength.le
  · rwa [← hSplit]
  · apply String.toList_injective
    rw [FileItem.content_eq, ← Text.intercalate_append_cons, ← hSplit, ← hLines,
      Text.splitWhere_eq_splitOnP, ← List.splitOn_eq_splitOnP, List.intercalate_splitOn]

variable {K : Type}

/-- With an item in a file, and the first task on its line as done as the item is. -/
def withItem (v : Vault K) (path : String) (n : Nat) (f : FileItem) : Vault K :=
  { v.setFile path (f.content f.item.mark) with
    items := setCompleted path n f.item.isChecked v.items }

theorem file?_withItem (v : Vault K) (path : String) (n : Nat) (f : FileItem) :
    (v.withItem path n f).file? path = some (f.content f.item.mark) := by
  rw [file?, withItem, setFile, Table.lookup_set, if_pos rfl]

theorem setCompleted_setCompleted (path : String) (n : Nat) (done done' : Bool)
    (tasks : List Task) :
    setCompleted path n done' (setCompleted path n done tasks) =
      setCompleted path n done' tasks := by
  induction tasks with
  | nil => rfl
  | cons t rest ih =>
      by_cases h : t.path = path ∧ t.line = n
      · simp [setCompleted, h]
      · simp [setCompleted, h, ih]

theorem withItem_withItem (v : Vault K) (path : String) (n : Nat) (f g : FileItem) :
    (v.withItem path n f).withItem path n g = v.withItem path n g := by
  simp only [withItem, setFile, Table.set_set, setCompleted_setCompleted]

theorem toggle_of_isAt {v : Vault K} {path : String} {n : Nat} {f : FileItem} (h : f.IsAt n)
    (hFile : v.file? path = some (f.content f.item.mark)) :
    v.toggle path n = (true, v.withItem path n f.toggle) := by
  rw [toggle, hFile, Option.bind_some, toggledFile?_of_isAt h]
  rfl

/-- Without an item on the line there is nothing to flip. -/
theorem toggle_of_forall {v : Vault K} {path : String} {n : Nat}
    (h : ∀ f : FileItem, f.IsAt n → v.file? path ≠ some (f.content f.item.mark)) :
    v.toggle path n = (false, v) := by
  rw [toggle]
  split
  · next result hResult =>
    obtain ⟨content, hFile, hToggled⟩ := Option.bind_eq_some_iff.1 hResult
    obtain ⟨f, hf, rfl⟩ := exists_isAt_of_toggledFile? hToggled
    exact absurd hFile (h f hf)
  · rfl

/-- Only the first task on a line is set, if there is one. -/
theorem setCompleted_cases (path : String) (n : Nat) (done : Bool) (tasks : List Task) :
    (∃ before t after, (∀ u ∈ before, ¬(u.path = path ∧ u.line = n)) ∧
      (t.path = path ∧ t.line = n) ∧ tasks = before ++ t :: after ∧
      setCompleted path n done tasks = before ++ { t with completed := done } :: after) ∨
    (∀ t ∈ tasks, ¬(t.path = path ∧ t.line = n)) ∧ setCompleted path n done tasks = tasks := by
  induction tasks with
  | nil => exact .inr ⟨List.forall_mem_nil _, rfl⟩
  | cons t rest ih =>
      by_cases ht : t.path = path ∧ t.line = n
      · exact .inl ⟨[], t, rest, List.forall_mem_nil _, ht, rfl, if_pos ht⟩
      · rw [setCompleted, if_neg ht]
        rcases ih with ⟨before, u, after, hBefore, hu, rfl, hRest⟩ | ⟨hNone, hRest⟩
        · refine .inl ⟨t :: before, u, after, List.forall_mem_cons.2 ⟨ht, hBefore⟩, hu, rfl, ?_⟩
          rw [hRest, List.cons_append]
        · exact .inr ⟨List.forall_mem_cons.2 ⟨ht, hNone⟩, by rw [hRest]⟩

/-- A vault before and after the mark of an item in one of its files became another. In the file
nothing but the mark changes; of the tasks only the first one on the line of the item, if there is
one, which is then done unless the mark is a blank; notes and other files stay. -/
structure IsMarked (v : Vault K) (path : String) (n : Nat) (f : FileItem) (mark : Char)
    (v' : Vault K) : Prop where
  files : ∃ before after : Table String, path ∉ before.names ∧
    v.files = before ++ (path, f.content f.item.mark) :: after ∧
    v'.files = before ++ (path, f.content mark) :: after
  items : (∃ before t after, (∀ u ∈ before, ¬(u.path = path ∧ u.line = n)) ∧
      (t.path = path ∧ t.line = n) ∧ v.items = before ++ t :: after ∧
      v'.items = before ++ { t with completed := mark != ' ' } :: after) ∨
    (∀ t ∈ v.items, ¬(t.path = path ∧ t.line = n)) ∧ v'.items = v.items
  notes : v'.notes = v.notes

theorem isMarked_withItem {v : Vault K} {path : String} {n : Nat} {f : FileItem}
    (hFile : v.file? path = some (f.content f.item.mark)) :
    v.IsMarked path n f f.toggle.item.mark (v.withItem path n f.toggle) where
  files := by
    obtain ⟨before, after, hFiles, hBefore⟩ := List.lookup_eq_some_iff.1 hFile
    have hNew : path ∉ Table.names before := by
      intro hMem
      obtain ⟨entry, hEntry, hName⟩ := List.mem_map.1 hMem
      simpa [hName] using hBefore entry hEntry
    refine ⟨before, after, hNew, hFiles, ?_⟩
    rw [withItem, setFile, hFiles]
    exact Table.set_append_cons hNew _ _ _
  items := setCompleted_cases path n f.toggle.item.isChecked v.items
  notes := rfl

/-- Either there is no checkbox item on the line of the file, and then nothing is done. Or there is
one, and its mark is flipped: a blank becomes an x, and any other mark a blank. The same line can
then be flipped again: a second time restores the file if the mark was a blank or an x, and a third
time does what the first one did. -/
theorem toggle_marked (v : Vault K) (path : String) (n : Nat) :
    (v.toggle path n = (false, v) ∧
      ∀ f : FileItem, f.IsAt n → v.file? path ≠ some (f.content f.item.mark)) ∨
    ∃ (f : FileItem) (once twice : Vault K), f.IsAt n ∧ v.toggle path n = (true, once) ∧
      v.IsMarked path n f (if f.item.mark = ' ' then 'x' else ' ') once ∧
      once.toggle path n = (true, twice) ∧ twice.toggle path n = (true, once) ∧
      (twice.file? path = v.file? path ↔ f.item.mark = ' ' ∨ f.item.mark = 'x') := by
  by_cases h : ∃ f : FileItem, f.IsAt n ∧ v.file? path = some (f.content f.item.mark)
  · obtain ⟨f, hf, hFile⟩ := h
    have hOnce := toggle_of_isAt hf hFile
    have hTwice := toggle_of_isAt hf.toggle (v.file?_withItem path n f.toggle)
    have hThrice := toggle_of_isAt hf.toggle.toggle
      ((v.withItem path n f.toggle).file?_withItem path n f.toggle.toggle)
    rw [withItem_withItem] at hTwice hThrice
    rw [withItem_withItem, f.toggle_toggle_toggle] at hThrice
    refine .inr ⟨f, _, _, hf, hOnce, isMarked_withItem hFile, hTwice, hThrice, ?_⟩
    rw [file?_withItem, hFile, Option.some_inj, ← f.toggle_toggle_mark_iff]
    exact f.content_injective.eq_iff
  · have hNone : ∀ f : FileItem, f.IsAt n → v.file? path ≠ some (f.content f.item.mark) :=
      fun f hf hFile => h ⟨f, hf, hFile⟩
    exact .inl ⟨toggle_of_forall hNone, hNone⟩

/-- A numbered item in the middle of a file with line breaks of two kinds, and a bracket in its
text. -/
example :
    let v : Vault Exact := ⟨[], [.ofLine "a.md" 1 "Ship [it]"],
      [("b.md", "- [ ] no"), ("a.md", "# Day\r\n\t٣) [X] Ship [it]\r\n\n- [ ] later")]⟩
    (v.toggle "a.md" 1).2.files =
      [("b.md", "- [ ] no"), ("a.md", "# Day\r\n\t٣) [ ] Ship [it]\r\n\n- [ ] later")] := by
  decide +kernel

end Vault
end NoteBoard
