import Mathlib.Data.List.DropRight
import NoteBoard.Text.Entries

/-! Comma lists and their entries: what an entry looks like that was found in a list, and lists that
are written from entries and read back. -/
namespace NoteBoard.Text

theorem strip_strip (p : Char → Bool) (text : List Char) :
    strip p (strip p text) = strip p text := by
  have hStart : dropStart p (strip p text) = strip p text := by
    refine List.dropWhile_eq_self_iff.2 fun hNonempty => ?_
    have hPrefix : strip p text <+: dropStart p text := List.rdropWhile_prefix p _
    rw [hPrefix.getElem hNonempty]
    exact List.dropWhile_get_zero_not p text _
  rw [strip, hStart]
  exact List.rdropWhile_idempotent p _

theorem toList_trim (text : String) : (trim text).toList = strip isBlank text.toList := by
  rw [trim, String.toList_ofList]

theorem trim_trim (text : String) : trim (trim text) = trim text := by
  simp [trim, strip_strip]

theorem dropStart_sublist (p : Char → Bool) (text : List Char) : (dropStart p text).Sublist text :=
  List.dropWhile_sublist p

theorem strip_sublist (p : Char → Bool) (text : List Char) : (strip p text).Sublist text := by
  have hPrefix : strip p text <+: dropStart p text := List.rdropWhile_prefix p _
  exact hPrefix.sublist.trans (dropStart_sublist p text)

theorem strip_subset (p : Char → Bool) (text : List Char) : strip p text ⊆ text :=
  (strip_sublist p text).subset

theorem forall_of_strip_eq_nil {p : Char → Bool} {text : List Char} (h : strip p text = []) :
    ∀ c ∈ text, p c = true := by
  intro c hMem
  cases hc : p c with
  | true => rfl
  | false => exact absurd (h ▸ mem_strip hMem hc) List.not_mem_nil

theorem dropEnd_append {p : Char → Bool} {right : List Char} (h : ∀ c ∈ right, p c = true)
    (text : List Char) : dropEnd p (text ++ right) = dropEnd p text := by
  have hReverse : ∀ c ∈ right.reverse, p c = true := by simpa using h
  rw [dropEnd, List.reverse_append, List.dropWhile_append_of_pos hReverse, dropEnd]

/-- Characters of the class in front of a text do not matter. -/
theorem strip_append_left {p : Char → Bool} {left : List Char} (h : ∀ c ∈ left, p c = true)
    (text : List Char) : strip p (left ++ text) = strip p text := by
  rw [strip, dropStart, List.dropWhile_append_of_pos h]
  rfl

theorem strip_append_right {p : Char → Bool} {right : List Char} (h : ∀ c ∈ right, p c = true)
    (text : List Char) : strip p (text ++ right) = strip p text := by
  rw [strip, dropStart, List.dropWhile_append]
  split
  · next hAll =>
    have hNone : text.dropWhile p = [] := List.isEmpty_iff.1 hAll
    rw [strip, dropStart, hNone, List.dropWhile_eq_nil_iff.2 h]
  · rw [dropEnd_append h, strip, dropStart]

theorem exists_append_dropEnd (p : Char → Bool) (text : List Char) :
    ∃ right, text = dropEnd p text ++ right ∧ ∀ c ∈ right, p c = true := by
  have hEnd := congrArg List.reverse
    (List.takeWhile_append_dropWhile (p := p) (l := text.reverse))
  rw [List.reverse_append, List.reverse_reverse] at hEnd
  exact ⟨_, hEnd.symm, fun c hc => List.mem_takeWhile_imp (List.mem_reverse.1 hc)⟩

/-- What is left of a text stands between characters of the class. -/
theorem exists_append_strip (p : Char → Bool) (text : List Char) :
    ∃ left right, text = left ++ strip p text ++ right ∧
      (∀ c ∈ left, p c = true) ∧ ∀ c ∈ right, p c = true := by
  obtain ⟨right, hEnd, hRight⟩ := exists_append_dropEnd p (dropStart p text)
  refine ⟨text.takeWhile p, right, ?_, fun c hc => List.mem_takeWhile_imp hc, hRight⟩
  rw [List.append_assoc, strip, ← hEnd]
  exact List.takeWhile_append_dropWhile.symm

/-- A text starts with its first character that is not of the class. -/
theorem head?_strip {p : Char → Bool} {c : Char} (hc : p c = false) (rest : List Char) :
    (strip p (c :: rest)).head? = some c := by
  have hKept : c ∈ strip p (c :: rest) := mem_strip List.mem_cons_self hc
  obtain ⟨left, right, hText, hAll, -⟩ := exists_append_strip p (c :: rest)
  cases left with
  | nil =>
      cases hStrip : strip p (c :: rest) with
      | nil => exact absurd (hStrip ▸ hKept) List.not_mem_nil
      | cons d core =>
          rw [hStrip] at hText
          rw [List.head?_cons, (List.cons.inj hText).1]
  | cons d left =>
      have hFirst := hAll d List.mem_cons_self
      rw [← (List.cons.inj hText).1, hc] at hFirst
      cases hFirst

theorem dropStart_eq_self_iff {p : Char → Bool} {text : List Char} :
    dropStart p text = text ↔ ∀ c ∈ text.head?, p c = false := by
  cases text with
  | nil => simp [dropStart]
  | cons c rest => simp [dropStart, List.dropWhile_eq_self_iff]

theorem dropEnd_eq_self_iff {p : Char → Bool} {text : List Char} :
    dropEnd p text = text ↔ ∀ c ∈ text.getLast?, p c = false := by
  rw [dropEnd, List.reverse_eq_iff, ← List.head?_reverse]
  exact dropStart_eq_self_iff

/-- A text stays as it is if it neither starts nor ends with a character of the class. -/
theorem strip_eq_self_iff {p : Char → Bool} {text : List Char} :
    strip p text = text ↔
      (∀ c ∈ text.head?, p c = false) ∧ ∀ c ∈ text.getLast?, p c = false := by
  rw [← dropStart_eq_self_iff, ← dropEnd_eq_self_iff]
  constructor
  · intro h
    have hEnd : (dropEnd p (dropStart p text)).Sublist (dropStart p text) :=
      (List.rdropWhile_prefix p _).sublist
    have hStart : dropStart p text = text := by
      refine (List.dropWhile_sublist p).eq_of_length_le ?_
      rw [← congrArg List.length h]
      exact hEnd.length_le
    exact ⟨hStart, by rwa [strip, hStart] at h⟩
  · rintro ⟨hStart, hEnd⟩
    rw [strip, hStart, hEnd]

theorem strip_reverse (p : Char → Bool) (text : List Char) :
    strip p text.reverse = (strip p text).reverse := by
  obtain ⟨left, right, hText, hLeft, hRight⟩ := exists_append_strip p text
  have hReverse : text.reverse = right.reverse ++ (strip p text).reverse ++ left.reverse := by
    rw [List.append_assoc, ← List.reverse_append, ← List.reverse_append, ← hText]
  rw [hReverse, strip_append_right (by simpa using hLeft),
    strip_append_left (by simpa using hRight), strip_eq_self_iff, List.head?_reverse,
    List.getLast?_reverse, and_comm, ← strip_eq_self_iff, strip_strip]

theorem splitWhere_eq_splitOnP (p : Char → Bool) (text : List Char) :
    splitWhere p text = text.splitOnP p := by
  induction text with
  | nil => rfl
  | cons c rest ih =>
      rw [splitWhere, List.splitOnP_cons_eq_if_modifyHead, ih]
      split
      · rfl
      · cases hPieces : rest.splitOnP p with
        | nil => exact absurd hPieces (List.splitOnP_ne_nil p rest)
        | cons piece pieces => rfl

/-- The pieces of a text are made of its characters that are no separators. -/
theorem of_mem_splitWhere {p : Char → Bool} {text piece : List Char}
    (h : piece ∈ splitWhere p text) : ∀ c ∈ piece, c ∈ text ∧ p c = false := by
  induction text generalizing piece with
  | nil =>
      rw [List.mem_singleton.1 h]
      exact fun c hc => absurd hc List.not_mem_nil
  | cons d rest ih =>
      have hRest : ∀ piece ∈ splitWhere p rest, ∀ c ∈ piece, c ∈ d :: rest ∧ p c = false :=
        fun piece hPiece c hc => (ih hPiece c hc).imp_left (List.mem_cons_of_mem d)
      rw [splitWhere] at h
      split at h
      · rcases List.mem_cons.1 h with rfl | hLater
        · exact fun c hc => absurd hc List.not_mem_nil
        · exact hRest piece hLater
      · next hd =>
        cases hPieces : splitWhere p rest with
        | nil => exact absurd hPieces (splitWhere_ne_nil p rest)
        | cons first pieces =>
            rw [hPieces] at h hRest
            rcases List.mem_cons.1 h with rfl | hLater
            · have hFirst := hRest first List.mem_cons_self
              exact List.forall_mem_cons.2 ⟨⟨List.mem_cons_self, by simpa using hd⟩, hFirst⟩
            · exact hRest piece (List.mem_cons_of_mem _ hLater)

theorem eq_false_of_mem_splitWhere {p : Char → Bool} {text piece : List Char}
    (h : piece ∈ splitWhere p text) : ∀ c ∈ piece, p c = false :=
  fun c hc => (of_mem_splitWhere h c hc).2

theorem eq_nil_of_mem_splitWhere {p : Char → Bool} {text piece : List Char}
    (h : ∀ c ∈ text, p c = true) (hPiece : piece ∈ splitWhere p text) : piece = [] := by
  induction text with
  | nil => exact List.mem_singleton.1 hPiece
  | cons c rest ih =>
      obtain ⟨hFirst, hRest⟩ := List.forall_mem_cons.1 h
      rw [splitWhere, if_pos hFirst] at hPiece
      rcases List.mem_cons.1 hPiece with rfl | hMem
      · rfl
      · exact ih hRest hMem

/-- A text that can stand in a comma list as it is. -/
structure IsEntry (clean : List Char → List Char) (entry : List Char) : Prop where
  ne_nil : entry ≠ []
  unsplit : ',' ∉ entry
  stripped : strip isBlank entry = entry
  clean_eq : clean entry = entry

section Entries

variable {clean : List Char → List Char}

/-- An entry of a list was cut out between commas and cleaned, and something is left. -/
theorem mem_entriesWith_iff {text entry : String} : entry ∈ entriesWith clean text ↔
    entry.toList ≠ [] ∧
      ∃ piece ∈ splitWhere (· == ',') text.toList, entry.toList = clean (strip isBlank piece) := by
  simp only [entriesWith, List.mem_map, List.mem_filter, Function.comp_apply]
  constructor
  · rintro ⟨_, ⟨⟨piece, hPiece, rfl⟩, hSome⟩, rfl⟩
    rw [String.toList_ofList]
    exact ⟨by simpa using hSome, piece, hPiece, rfl⟩
  · rintro ⟨hSome, piece, hPiece, hClean⟩
    refine ⟨_, ⟨⟨piece, hPiece, hClean.symm⟩, by simpa using hSome⟩, String.ofList_toList⟩

theorem exists_of_mem_entriesWith {text entry : String} (h : entry ∈ entriesWith clean text) :
    ∃ piece, ',' ∉ piece ∧ entry.toList = clean (strip isBlank piece) ∧ entry.toList ≠ [] := by
  obtain ⟨hSome, piece, hPiece, hClean⟩ := mem_entriesWith_iff.1 h
  refine ⟨piece, fun hComma => ?_, hClean, hSome⟩
  simpa using eq_false_of_mem_splitWhere hPiece ',' hComma

/-- The entries on both sides of a comma. -/
theorem entriesWith_append (first second : List Char) :
    entriesWith clean (String.ofList (first ++ ',' :: second)) =
      entriesWith clean (String.ofList first) ++ entriesWith clean (String.ofList second) := by
  simp only [entriesWith, String.toList_ofList, splitWhere_eq_splitOnP]
  rw [List.splitOnP_append_cons _ _ rfl, List.map_append, List.filter_append, List.map_append]

theorem entriesWith_blank (text : List Char) :
    entriesWith clean (String.ofList (' ' :: text)) = entriesWith clean (String.ofList text) := by
  have hBlank : ∀ piece, strip isBlank (' ' :: piece) = strip isBlank piece :=
    strip_append_left (List.forall_mem_singleton.2 (by decide))
  simp only [entriesWith, String.toList_ofList, splitWhere]
  cases hPieces : splitWhere (· == ',') text with
  | nil => exact absurd hPieces (splitWhere_ne_nil _ text)
  | cons piece pieces => simp [hBlank]

/-- Of texts with a comma and a blank between each two, the entries of each are listed. -/
theorem entriesWith_join_eq_flatMap (hEmpty : clean [] = []) (texts : List String) :
    entriesWith clean (join ", " texts) = texts.flatMap (entriesWith clean) := by
  induction texts with
  | nil => simp [entriesWith, join, splitWhere, strip, dropStart, dropEnd, hEmpty]
  | cons first rest ih =>
      cases rest with
      | nil => simp [join]
      | cons second rest =>
          have hJoin : join ", " (first :: second :: rest) = String.ofList
              (first.toList ++ ',' :: ' ' :: (join ", " (second :: rest)).toList) := by
            simp [join, List.intercalate_cons_cons]
          rw [hJoin, entriesWith_append, entriesWith_blank, String.ofList_toList,
            String.ofList_toList, ih]
          rfl

theorem entriesWith_of_unsplit {text : String} (h : ',' ∉ text.toList) :
    entriesWith clean text = ([clean (strip isBlank text.toList)].filter
      fun piece => !piece.isEmpty).map String.ofList := by
  have hNone : ∀ c ∈ text.toList, (c == ',') = false :=
    fun c hc => beq_eq_false_iff_ne.2 fun hSame => h (hSame ▸ hc)
  have hPieces : splitWhere (· == ',') text.toList = [text.toList] := by
    rw [splitWhere_eq_splitOnP, List.splitOnP_eq_singleton hNone]
  rw [entriesWith, hPieces, List.map_singleton, Function.comp_apply]

theorem IsEntry.entriesWith_eq {entry : String} (h : IsEntry clean entry.toList) :
    entriesWith clean entry = [entry] := by
  rw [entriesWith_of_unsplit h.unsplit, h.stripped, h.clean_eq]
  simp [h.ne_nil]

/-- Entries with a comma and a blank between each two are listed as they are. -/
theorem entriesWith_join (hEmpty : clean [] = []) {entries : List String}
    (h : ∀ entry ∈ entries, IsEntry clean entry.toList) :
    entriesWith clean (join ", " entries) = entries := by
  rw [entriesWith_join_eq_flatMap hEmpty,
    List.flatMap_congr (g := fun entry => [entry]) fun entry hMem => (h entry hMem).entriesWith_eq,
    List.flatMap_singleton']

end Entries

section Once

variable {α : Type} [BEq α] [LawfulBEq α]

theorem nodup_eraseDups (entries : List α) : entries.eraseDups.Nodup := by
  induction hLength : entries.length using Nat.strong_induction_on generalizing entries with
  | _ length ih =>
      cases entries with
      | nil => exact List.nodup_nil
      | cons first rest =>
          have hOthers : (rest.filter fun entry => !entry == first).length < length := by
            have hFilter := List.length_filter_le (fun entry => !entry == first) rest
            rw [List.length_cons] at hLength
            omega
          rw [List.eraseDups_cons, List.nodup_cons]
          exact ⟨by simp [List.mem_eraseDups], ih _ hOthers _ rfl⟩

theorem eraseDups_of_nodup {entries : List α} (h : entries.Nodup) :
    entries.eraseDups = entries := by
  induction entries with
  | nil => rfl
  | cons first rest ih =>
      obtain ⟨hFirst, hRest⟩ := List.nodup_cons.1 h
      have hOthers : rest.filter (fun entry => !entry == first) = rest := by
        rw [List.filter_eq_self]
        intro entry hMem
        have hNe : entry ≠ first := fun hSame => hFirst (hSame ▸ hMem)
        simpa using hNe
      rw [List.eraseDups_cons, hOthers, ih hRest]

theorem eraseDups_concat_of_mem {entries : List α} {entry : α} (h : entry ∈ entries) :
    (entries ++ [entry]).eraseDups = entries.eraseDups := by
  simp [List.eraseDups_append, List.removeAll, h]

theorem eraseDups_concat_of_notMem {entries : List α} {entry : α} (h : entry ∉ entries) :
    (entries ++ [entry]).eraseDups = entries.eraseDups ++ [entry] := by
  have hOnly : [entry].removeAll entries = [entry] := by simp [List.removeAll, h]
  have hOnce : [entry].Nodup := List.pairwise_singleton _ _
  rw [List.eraseDups_append, hOnly, eraseDups_of_nodup hOnce]

theorem eraseDups_sublist (entries : List α) : entries.eraseDups.Sublist entries := by
  induction entries using List.reverseRecOn with
  | nil => exact .slnil
  | append_singleton entries entry ih =>
      by_cases hKnown : entry ∈ entries
      · rw [eraseDups_concat_of_mem hKnown]
        exact ih.trans (List.sublist_append_left _ _)
      · rw [eraseDups_concat_of_notMem hKnown]
        exact ih.append_right [entry]

variable {β : Type} [BEq β] [LawfulBEq β]

theorem eraseDups_map {f : α → β} (hf : Function.Injective f) (entries : List α) :
    (entries.map f).eraseDups = entries.eraseDups.map f := by
  induction entries using List.reverseRecOn with
  | nil => rfl
  | append_singleton entries entry ih =>
      rw [List.map_append, List.map_singleton]
      by_cases hKnown : entry ∈ entries
      · rw [eraseDups_concat_of_mem hKnown, eraseDups_concat_of_mem (List.mem_map_of_mem hKnown),
          ih]
      · have hNew : f entry ∉ entries.map f := by simpa [hf.eq_iff] using hKnown
        rw [eraseDups_concat_of_notMem hKnown, eraseDups_concat_of_notMem hNew, ih, List.map_append,
          List.map_singleton]

/-- Entries that are repeated repeat what comes of them. -/
theorem eraseDups_flatMap_eraseDups (f : α → List β) (entries : List α) :
    (entries.eraseDups.flatMap f).eraseDups = (entries.flatMap f).eraseDups := by
  induction entries using List.reverseRecOn with
  | nil => rfl
  | append_singleton entries entry ih =>
      rw [List.flatMap_append, List.flatMap_singleton]
      by_cases hKnown : entry ∈ entries
      · have hNothing : (f entry).removeAll (entries.flatMap f) = [] := by
          simp only [List.removeAll, List.filter_eq_nil_iff]
          intro b hb
          simpa using ⟨entry, hKnown, hb⟩
        rw [eraseDups_concat_of_mem hKnown, List.eraseDups_append, hNothing, List.eraseDups_nil,
          List.append_nil, ih]
      · have hSame : (f entry).removeAll (entries.eraseDups.flatMap f) =
            (f entry).removeAll (entries.flatMap f) := by
          simp [List.removeAll]
        rw [eraseDups_concat_of_notMem hKnown, List.flatMap_append, List.flatMap_singleton,
          List.eraseDups_append, List.eraseDups_append, hSame, ih]

end Once

end NoteBoard.Text
