import NoteBoard.Filter.Basic
import NoteBoard.Proofs.Text.Listed

/-! The names that a filter lists, and what is listed again when they are written down. Names are
different and have no white space around them; they are listed again as they are exactly if no mark
of a tag or folder is left at their ends. One can be left, since the marks of an entry are taken
away once, and the white space behind them only afterwards. -/
namespace NoteBoard

namespace Text

/-- What takes something away from an entry and then the white space at its ends. -/
structure IsCleaner (clean : List Char → List Char) : Prop where
  sublist : ∀ entry, (clean entry).Sublist entry
  stripped : ∀ entry, strip isBlank (clean entry) = clean entry

section Marks

variable {unmark : List Char → List Char}

theorem isCleaner_strip (h : ∀ entry, (unmark entry).Sublist entry) :
    IsCleaner fun entry => strip isBlank (unmark entry) where
  sublist entry := (strip_sublist _ _).trans (h entry)
  stripped _ := strip_strip _ _

/-- An entry without white space at its ends stays if its marks do, since nothing is added. -/
theorem strip_unmark_eq_self_iff (h : ∀ entry, (unmark entry).Sublist entry) {entry : List Char}
    (hStripped : strip isBlank entry = entry) :
    strip isBlank (unmark entry) = entry ↔ unmark entry = entry := by
  constructor
  · intro hClean
    have hLength := (strip_sublist isBlank (unmark entry)).length_le
    rw [hClean] at hLength
    exact (h entry).eq_of_length_le hLength
  · intro hUnmarked
    rw [hUnmarked, hStripped]

end Marks

variable {clean : List Char → List Char}

theorem IsCleaner.clean_nil (h : IsCleaner clean) : clean [] = [] :=
  List.sublist_nil.1 (h.sublist [])

/-- A list of different names without white space at their ends. -/
structure AreNames (names : List String) : Prop where
  nodup : names.Nodup
  ne_empty : ∀ name ∈ names, name ≠ ""
  trimmed : ∀ name ∈ names, trim name = name

namespace IsCleaner

variable {text : String}

theorem unsplit (h : IsCleaner clean) {name : String} (hName : name ∈ entriesWith clean text) :
    ',' ∉ name.toList := by
  obtain ⟨piece, hComma, hClean, -⟩ := exists_of_mem_entriesWith hName
  rw [hClean]
  exact fun hMem => hComma (strip_subset _ _ ((h.sublist _).subset hMem))

theorem strip_name (h : IsCleaner clean) {name : String} (hName : name ∈ entriesWith clean text) :
    strip isBlank name.toList = name.toList := by
  obtain ⟨piece, -, hClean, -⟩ := exists_of_mem_entriesWith hName
  rw [hClean, h.stripped]

theorem isEntry (h : IsCleaner clean) {name : String} (hName : name ∈ entriesWith clean text)
    (hClean : clean name.toList = name.toList) : IsEntry clean name.toList where
  ne_nil := (mem_entriesWith_iff.1 hName).1
  unsplit := h.unsplit hName
  stripped := h.strip_name hName
  clean_eq := hClean

theorem areNames (h : IsCleaner clean) (text : String) :
    AreNames (entriesWith clean text).eraseDups where
  nodup := nodup_eraseDups _
  ne_empty name hName := by
    have hSome := (mem_entriesWith_iff.1 (List.mem_eraseDups.1 hName)).1
    rintro rfl
    exact hSome rfl
  trimmed name hName := by
    rw [trim, h.strip_name (List.mem_eraseDups.1 hName), String.ofList_toList]

/-- Each name is cleaned once more when it is listed again, and an empty one is left out. -/
theorem entriesWith_join_sublist (h : IsCleaner clean) {names : List String}
    (hNames : ∀ name ∈ names, name ∈ entriesWith clean text) :
    (entriesWith clean (join ", " names)).Sublist
      (names.map fun name => String.ofList (clean name.toList)) := by
  rw [entriesWith_join_eq_flatMap h.clean_nil]
  induction names with
  | nil => exact .slnil
  | cons first rest ih =>
      obtain ⟨hFirst, hRest⟩ := List.forall_mem_cons.1 hNames
      rw [List.flatMap_cons, entriesWith_of_unsplit (h.unsplit hFirst), h.strip_name hFirst]
      exact (List.filter_sublist.map String.ofList).append (ih hRest)

/-- Names are listed again as they are exactly if cleaning them once more does not change them. -/
theorem relisted_iff (h : IsCleaner clean) (text : String) :
    (entriesWith clean (join ", " (entriesWith clean text).eraseDups)).eraseDups =
        (entriesWith clean text).eraseDups ↔
      ∀ name ∈ (entriesWith clean text).eraseDups, clean name.toList = name.toList := by
  have hNames : ∀ name ∈ (entriesWith clean text).eraseDups, name ∈ entriesWith clean text :=
    fun _ => List.mem_eraseDups.1
  constructor
  · intro hAgain name hName
    have hCleaned := (eraseDups_sublist _).trans (h.entriesWith_join_sublist hNames)
    rw [hAgain] at hCleaned
    have hSame := hCleaned.eq_of_length (by rw [List.length_map])
    have hFixed : String.ofList (clean name.toList) = name :=
      List.map_inj_left.1 (hSame.symm.trans (List.map_id _).symm) name hName
    have hChars := congrArg String.toList hFixed
    rwa [String.toList_ofList] at hChars
  · intro hFixed
    have hEntries : ∀ name ∈ (entriesWith clean text).eraseDups, IsEntry clean name.toList :=
      fun name hName => h.isEntry (hNames name hName) (hFixed name hName)
    rw [entriesWith_join h.clean_nil hEntries]
    exact eraseDups_of_nodup (nodup_eraseDups _)

end IsCleaner

/-- What is said of the names of a list is said of its pieces, cleaned, if it holds of nothing. -/
theorem forall_mem_names_iff {P : List Char → Prop} (hNothing : P []) {text : String} :
    (∀ name ∈ (entriesWith clean text).eraseDups, P name.toList) ↔
      ∀ piece ∈ splitWhere (· == ',') text.toList, P (clean (strip isBlank piece)) := by
  simp only [List.mem_eraseDups, mem_entriesWith_iff]
  constructor
  · intro hNames piece hPiece
    by_cases hSome : clean (strip isBlank piece) = []
    · rwa [hSome]
    · have hName := hNames (String.ofList (clean (strip isBlank piece)))
      rw [String.toList_ofList] at hName
      exact hName ⟨hSome, piece, hPiece, rfl⟩
  · rintro hPieces name ⟨-, piece, hPiece, hClean⟩
    rw [hClean]
    exact hPieces piece hPiece

end Text

namespace Filter

open Text

/-- Behind the marks at its start an entry has white space, another mark and a rest. -/
def Hides (mark : Char) (entry rest : List Char) : Prop :=
  ∃ marks blanks, marks ≠ [] ∧ (∀ c ∈ marks, c = mark) ∧
    blanks ≠ [] ∧ (∀ c ∈ blanks, isBlank c = true) ∧ entry = marks ++ blanks ++ mark :: rest

/-- A tag behind whose hashes, and the white space after them, there is a hash again. -/
def HidesHash (entry : List Char) : Prop :=
  ∃ rest, Hides '#' entry rest

/-- A folder inside whose quotes, behind white space, there is a quote again. -/
def HidesQuote (entry : List Char) : Prop :=
  ∃ rest, Hides '"' entry rest ∧ ∃ c ∈ rest, c ≠ '"'

theorem forall_beq_eq_false_iff {first : Option Char} {mark : Char} :
    (∀ c ∈ first, (c == mark) = false) ↔ first ≠ some mark := by
  cases first <;> simp

variable {entry : List Char}

theorem bareTag_eq_self_iff (h : strip isBlank entry = entry) :
    bareTag entry = entry ↔ entry.head? ≠ some '#' := by
  rw [bareTag, strip_unmark_eq_self_iff (dropStart_sublist _) h, dropStart_eq_self_iff,
    forall_beq_eq_false_iff]

theorem bareFolder_eq_self_iff (h : strip isBlank entry = entry) :
    bareFolder entry = entry ↔ entry.head? ≠ some '"' ∧ entry.getLast? ≠ some '"' := by
  rw [bareFolder, strip_unmark_eq_self_iff (strip_sublist _) h, strip_eq_self_iff,
    forall_beq_eq_false_iff, forall_beq_eq_false_iff]

/-- A mark comes first where only white space was between it and the marks that were taken away. -/
theorem exists_hides_of_head? {mark : Char} {marks text others : List Char}
    (hEntry : strip isBlank (marks ++ text ++ others) = marks ++ text ++ others)
    (hMarks : ∀ c ∈ marks, c = mark) (hText : text.head? ≠ some mark)
    (hFirst : (strip isBlank text).head? = some mark) :
    ∃ rest, Hides mark (marks ++ text ++ others) (rest ++ others) ∧
      text.getLast? = (mark :: rest).getLast? := by
  obtain ⟨blanks, right, hParts, hBlanks, -⟩ := exists_append_strip isBlank text
  obtain ⟨core, hCore⟩ := List.head?_eq_some_iff.1 hFirst
  rw [hCore] at hParts
  have hSome : blanks ≠ [] := by
    rintro rfl
    exact hText (by rw [hParts]; rfl)
  have hMarked : marks ≠ [] := by
    rintro rfl
    obtain ⟨blank, blanks, rfl⟩ := List.exists_cons_of_ne_nil hSome
    have hStart := (strip_eq_self_iff.1 hEntry).1 blank (by rw [hParts]; rfl)
    rw [hBlanks blank List.mem_cons_self] at hStart
    cases hStart
  refine ⟨core ++ right, ⟨marks, blanks, hMarked, hMarks, hSome, hBlanks, ?_⟩, ?_⟩
  · rw [hParts]
    simp
  · rw [hParts]
    simp [List.getLast?_append, List.getLast?_cons]

theorem head?_strip_hidden {mark : Char} (hMark : isBlank mark = false) {blanks : List Char}
    (hBlanks : ∀ c ∈ blanks, isBlank c = true) (rest : List Char) :
    (strip isBlank (blanks ++ mark :: rest)).head? = some mark := by
  rw [strip_append_left hBlanks, head?_strip hMark]

/-- White space is no mark. -/
theorem forall_head?_blanks {mark : Char} (hMark : isBlank mark = false) {blanks : List Char}
    (hSome : blanks ≠ []) (hBlanks : ∀ c ∈ blanks, isBlank c = true) (rest : List Char) :
    ∀ c ∈ (blanks ++ rest).head?, (c == mark) = false := by
  obtain ⟨blank, blanks, rfl⟩ := List.exists_cons_of_ne_nil hSome
  rintro _ ⟨⟩
  refine beq_eq_false_iff_ne.2 ?_
  rintro rfl
  rw [hBlanks _ List.mem_cons_self] at hMark
  cases hMark

theorem head?_bareTag_iff (h : strip isBlank entry = entry) :
    (bareTag entry).head? = some '#' ↔ HidesHash entry := by
  constructor
  · intro hFirst
    have hParts := List.takeWhile_append_dropWhile (p := (· == '#')) (l := entry)
    have hMarks : ∀ c ∈ entry.takeWhile (· == '#'), c = '#' :=
      fun c hc => by simpa using List.mem_takeWhile_imp hc
    have hStart : (dropStart (· == '#') entry).head? ≠ some '#' := by
      rw [← forall_beq_eq_false_iff, ← dropStart_eq_self_iff]
      exact List.dropWhile_idempotent _ entry
    rw [← hParts, ← List.append_nil (List.takeWhile _ _ ++ _)] at h ⊢
    obtain ⟨rest, hHides, -⟩ := exists_hides_of_head? h hMarks hStart hFirst
    exact ⟨_, hHides⟩
  · rintro ⟨rest, marks, blanks, -, hMarks, hSome, hBlanks, rfl⟩
    have hUnmarked : dropStart (· == '#') (marks ++ blanks ++ '#' :: rest) =
        blanks ++ '#' :: rest := by
      rw [dropStart, List.append_assoc, List.dropWhile_append_of_pos (by simpa using hMarks)]
      exact dropStart_eq_self_iff.2 (forall_head?_blanks (by decide) hSome hBlanks _)
    rw [bareTag, hUnmarked, head?_strip_hidden (by decide) hBlanks]

/-- The quotes at both ends are taken away, up to the white space before a hidden one. -/
theorem strip_hidden {marks blanks rest : List Char} (hMarks : ∀ c ∈ marks, c = '"')
    (hSome : blanks ≠ []) (hBlanks : ∀ c ∈ blanks, isBlank c = true)
    (hOther : ∃ c ∈ rest, c ≠ '"') : strip (· == '"') (marks ++ blanks ++ '"' :: rest) =
      blanks ++ '"' :: dropEnd (· == '"') rest := by
  obtain ⟨c, hc, hOther⟩ := hOther
  obtain ⟨right, hRest, hRight⟩ := exists_append_dropEnd (· == '"') rest
  have hCore : dropEnd (· == '"') rest ≠ [] := by
    intro hNone
    rw [hNone, List.nil_append] at hRest
    exact hOther (by simpa using hRight c (hRest ▸ hc))
  have hParts : marks ++ blanks ++ '"' :: rest =
      marks ++ (blanks ++ '"' :: dropEnd (· == '"') rest ++ right) := by
    conv_lhs => rw [hRest]
    simp
  rw [hParts, strip_append_left (by simpa using hMarks), strip_append_right hRight,
    strip_eq_self_iff, List.getLast?_append_of_ne_nil _ (List.cons_ne_nil _ _),
    List.getLast?_cons_of_ne_nil hCore, ← dropEnd_eq_self_iff]
  exact ⟨forall_head?_blanks (by decide) hSome hBlanks _, List.rdropWhile_idempotent _ rest⟩

theorem head?_bareFolder_iff (h : strip isBlank entry = entry) :
    (bareFolder entry).head? = some '"' ↔ HidesQuote entry := by
  constructor
  · intro hFirst
    obtain ⟨marks, others, hParts, hMarks, -⟩ := exists_append_strip (· == '"') entry
    obtain ⟨hStart, hEnd⟩ := strip_eq_self_iff.1 (strip_strip (· == '"') entry)
    rw [forall_beq_eq_false_iff] at hStart hEnd
    rw [hParts] at h
    obtain ⟨rest, hHides, hLast⟩ :=
      exists_hides_of_head? h (by simpa using hMarks) hStart hFirst
    rw [← hParts] at hHides
    refine ⟨_, hHides, ?_⟩
    rw [hLast] at hEnd
    -- The hidden quote is not the last character, which would have been taken away.
    cases rest using List.reverseRecOn with
    | nil => exact absurd rfl hEnd
    | append_singleton rest c =>
        refine ⟨c, by simp, ?_⟩
        rintro rfl
        exact hEnd (by simp [List.getLast?_cons])
  · rintro ⟨rest, ⟨marks, blanks, -, hMarks, hSome, hBlanks, rfl⟩, hOther⟩
    rw [bareFolder, strip_hidden hMarks hSome hBlanks hOther,
      head?_strip_hidden (by decide) hBlanks]

/-- What is hidden at the end of a folder is hidden at the start of the folder read backwards. -/
theorem getLast?_bareFolder_iff (h : strip isBlank entry = entry) :
    (bareFolder entry).getLast? = some '"' ↔ HidesQuote entry.reverse := by
  have hReverse : strip isBlank entry.reverse = entry.reverse := by rw [strip_reverse, h]
  rw [← head?_bareFolder_iff hReverse, ← List.head?_reverse, bareFolder, bareFolder, strip_reverse,
    strip_reverse]

theorem isCleaner_bareTag : IsCleaner bareTag :=
  isCleaner_strip (dropStart_sublist _)

theorem isCleaner_bareFolder : IsCleaner bareFolder :=
  isCleaner_strip (strip_sublist _)

theorem relisted_tags_iff (f : Filter) :
    ({ f with tags := join ", " f.tagNames } : Filter).tagNames = f.tagNames ↔
      ∀ tag ∈ f.tagNames, tag.toList.head? ≠ some '#' := by
  refine (isCleaner_bareTag.relisted_iff f.tags).trans (forall₂_congr fun tag hTag => ?_)
  exact bareTag_eq_self_iff (isCleaner_bareTag.strip_name (List.mem_eraseDups.1 hTag))

theorem relisted_folders_iff (f : Filter) :
    ({ f with folders := join ", " f.folderNames } : Filter).folderNames = f.folderNames ↔
      ∀ folder ∈ f.folderNames,
        folder.toList.head? ≠ some '"' ∧ folder.toList.getLast? ≠ some '"' := by
  refine (isCleaner_bareFolder.relisted_iff f.folders).trans
    (forall₂_congr fun folder hFolder => ?_)
  exact bareFolder_eq_self_iff (isCleaner_bareFolder.strip_name (List.mem_eraseDups.1 hFolder))

/-- The tags and the folders of a filter are different names without white space around them. They
are written down with commas between them and listed again as they are exactly if no tag starts with
a hash, and no folder starts or ends with a quote; which is the case exactly if no entry of the text
hides a hash at its start, or a quote at its start or its end. -/
theorem listed_again_iff (f : Filter) :
    (AreNames f.tagNames ∧
      (({ f with tags := join ", " f.tagNames } : Filter).tagNames = f.tagNames ↔
        ∀ tag ∈ f.tagNames, tag.toList.head? ≠ some '#') ∧
      ((∀ tag ∈ f.tagNames, tag.toList.head? ≠ some '#') ↔
        ∀ piece ∈ splitWhere (· == ',') f.tags.toList, ¬HidesHash (strip isBlank piece))) ∧
    AreNames f.folderNames ∧
      (({ f with folders := join ", " f.folderNames } : Filter).folderNames = f.folderNames ↔
        ∀ folder ∈ f.folderNames,
          folder.toList.head? ≠ some '"' ∧ folder.toList.getLast? ≠ some '"') ∧
      ((∀ folder ∈ f.folderNames,
          folder.toList.head? ≠ some '"' ∧ folder.toList.getLast? ≠ some '"') ↔
        ∀ piece ∈ splitWhere (· == ',') f.folders.toList,
          ¬HidesQuote (strip isBlank piece) ∧ ¬HidesQuote (strip isBlank piece).reverse) := by
  refine ⟨⟨isCleaner_bareTag.areNames f.tags, f.relisted_tags_iff, ?_⟩,
    isCleaner_bareFolder.areNames f.folders, f.relisted_folders_iff, ?_⟩
  · rw [tagNames, forall_mem_names_iff (P := fun tag => tag.head? ≠ some '#') (by simp)]
    refine forall₂_congr fun piece _ => not_congr ?_
    exact head?_bareTag_iff (strip_strip isBlank piece)
  · rw [folderNames, forall_mem_names_iff
      (P := fun folder => folder.head? ≠ some '"' ∧ folder.getLast? ≠ some '"') (by simp)]
    refine forall₂_congr fun piece _ => and_congr (not_congr ?_) (not_congr ?_)
    · exact head?_bareFolder_iff (strip_strip isBlank piece)
    · exact getLast?_bareFolder_iff (strip_strip isBlank piece)

/-- The hash behind the blank is taken away only when the tags are listed again. -/
example : (⟨"# #work, #home", "", []⟩ : Filter).tagNames = ["#work", "home"] ∧
    (⟨"#work, home", "", []⟩ : Filter).tagNames = ["work", "home"] := by
  decide +kernel

end Filter
end NoteBoard
