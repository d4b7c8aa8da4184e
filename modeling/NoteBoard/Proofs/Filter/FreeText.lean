import Mathlib.Data.List.Nodup
import NoteBoard.Filter.FreeText
import NoteBoard.Proofs.Filter.Everything
import NoteBoard.Proofs.Filter.Names

/-! Filters out of free text: from the part of a query that is sent to a provider, the tags and
folders of its filter are picked as they were. -/
namespace NoteBoard
namespace Filter

theorem splitQuoted_nil : splitQuoted [] = ([], []) := rfl

theorem splitQuoted_cons {c : Char} (hc : c ≠ '"') (rest : List Char) :
    splitQuoted (c :: rest) = ((splitQuoted rest).1, c :: (splitQuoted rest).2) := by
  simp only [splitQuoted, Text.splitWhere, beq_eq_false_iff_ne.2 hc, if_false, Bool.false_eq_true]
  cases hPieces : Text.splitWhere (· == '"') rest with
  | nil => exact absurd hPieces (Text.splitWhere_ne_nil _ rest)
  | cons outside pieces =>
      rcases pieces with _ | ⟨inside, _ | ⟨next, more⟩⟩
      · rfl
      · rfl
      · rfl

theorem splitQuoted_quoted {inside : List Char} (hInside : '"' ∉ inside) (rest : List Char) :
    splitQuoted ('"' :: inside ++ '"' :: rest) =
      (inside :: (splitQuoted rest).1, ' ' :: (splitQuoted rest).2) := by
  have hNone : ∀ c ∈ inside, (c == '"') = false :=
    fun c hc => beq_eq_false_iff_ne.2 fun hSame => hInside (hSame ▸ hc)
  have hPieces : Text.splitWhere (· == '"') ('"' :: inside ++ '"' :: rest) =
      [] :: inside :: Text.splitWhere (· == '"') rest := by
    simp only [Text.splitWhere_eq_splitOnP]
    rw [← List.nil_append ('"' :: inside ++ _), List.cons_append,
      List.splitOnP_append_cons_of_forall_mem (by simp) '"' rfl,
      List.splitOnP_append_cons_of_forall_mem hNone '"' rfl]
  rw [splitQuoted, hPieces, splitQuoted]
  cases hRest : Text.splitWhere (· == '"') rest with
  | nil => exact absurd hRest (Text.splitWhere_ne_nil _ rest)
  | cons next more => rfl

/-- A text with certain parts in quotes and the rest of it, whatever comes after it. -/
def HasQuoted (text : List Char) (quoted : List (List Char)) (unquoted : List Char) : Prop :=
  ∀ rest, splitQuoted (text ++ rest) =
    (quoted ++ (splitQuoted rest).1, unquoted ++ (splitQuoted rest).2)

theorem hasQuoted_plain {text : List Char} (h : '"' ∉ text) : HasQuoted text [] text := by
  intro rest
  induction text with
  | nil => rfl
  | cons c text ih =>
      rw [List.mem_cons, not_or] at h
      rw [List.cons_append, splitQuoted_cons (Ne.symm h.1), ih h.2]
      rfl

theorem HasQuoted.append {text text' unquoted unquoted' : List Char}
    {quoted quoted' : List (List Char)} (h : HasQuoted text quoted unquoted)
    (h' : HasQuoted text' quoted' unquoted') :
    HasQuoted (text ++ text') (quoted ++ quoted') (unquoted ++ unquoted') := by
  intro rest
  rw [List.append_assoc, h, h']
  simp

/-- What ends a tag and cannot start one: the end of the text, or a character that is in neither. -/
def EndsTag (rest : List Char) : Prop :=
  ∀ c ∈ rest.head?, inTag c = false ∧ c ≠ '#'

theorem endsTag_nil : EndsTag [] := by simp [EndsTag]

theorem tagTokens_nil (opened : Bool) : tagTokens opened none [] = [] := rfl

/-- Before the end of a tag it does not matter whether one could have started. -/
theorem tagTokens_of_endsTag {rest : List Char} (h : EndsTag rest) (opened : Bool) :
    tagTokens opened none rest = tagTokens false none rest := by
  cases rest with
  | nil => rfl
  | cons c rest =>
      have hc : c ≠ '#' := (h c rfl).2
      simp [tagTokens, hc]

/-- A text that starts where a tag can, with certain tags in it. -/
def HasTags (text : List Char) (tags : List (List Char)) : Prop :=
  ∀ rest, EndsTag rest → tagTokens true none (text ++ rest) = tags ++ tagTokens false none rest

theorem tagTokens_word {word : List Char} (hWord : ∀ c ∈ word, inTag c = true)
    (read rest : List Char) :
    tagTokens false (some read) (word ++ rest) =
      tagTokens false (some (word.reverse ++ read)) rest := by
  induction word generalizing read with
  | nil => rfl
  | cons c word ih =>
      obtain ⟨hFirst, hRest⟩ := List.forall_mem_cons.1 hWord
      rw [List.cons_append, tagTokens]
      simp [hFirst, ih hRest]

/-- A tag ends before the first character that is not in one. -/
theorem tagTokens_tag {tag rest : List Char} (hSome : tag ≠ []) (hTag : ∀ c ∈ tag, inTag c = true)
    (hEnd : ∀ c ∈ rest.head?, inTag c = false) :
    tagTokens true none ('#' :: tag ++ rest) = tag :: tagTokens false none rest := by
  have hStart : tagTokens true none ('#' :: tag ++ rest) =
      tagTokens false (some (tag.reverse ++ [])) rest := by
    rw [← tagTokens_word hTag, List.cons_append, tagTokens]
    rfl
  rw [hStart, List.append_nil]
  cases rest with
  | nil =>
      cases hRead : tag.reverse with
      | nil => exact absurd (List.reverse_eq_nil_iff.1 hRead) hSome
      | cons c read =>
          rw [tagTokens, ← hRead, List.reverse_reverse]
          rfl
  | cons c rest =>
      simp [tagTokens, hEnd c rfl, hSome]

theorem hasTags_tag {tag : List Char} (hSome : tag ≠ []) (hTag : ∀ c ∈ tag, inTag c = true) :
    HasTags ('#' :: tag) [tag] :=
  fun _ hRest => tagTokens_tag hSome hTag fun c hc => (hRest c hc).1

theorem hasTags_nil : HasTags [] [] :=
  fun _ hRest => tagTokens_of_endsTag hRest true

/-- The blank in place of a quoted part has no tags. -/
theorem hasTags_blank : HasTags [' '] [] := by
  intro rest hRest
  have hBlank : tagTokens true none ([' '] ++ rest) = tagTokens true none rest := rfl
  rw [hBlank, tagTokens_of_endsTag hRest, List.nil_append]

/-- A word between two clauses: it has no quotes, ends the tag before it, and a tag can follow. -/
structure IsConnective (word : List Char) : Prop where
  unquoted : '"' ∉ word
  endsTag : ∀ rest, EndsTag (word ++ rest)
  opens : ∀ rest, tagTokens false none (word ++ rest) = tagTokens true none rest

theorem isConnective_or : IsConnective " OR ".toList where
  unquoted := by decide
  endsTag rest := by simp [EndsTag, inTag, Text.isBlank]
  opens rest := rfl

theorem isConnective_and : IsConnective " AND ".toList where
  unquoted := by decide
  endsTag rest := by simp [EndsTag, inTag, Text.isBlank]
  opens rest := rfl

theorem HasTags.connect {word text text' : List Char} {tags tags' : List (List Char)}
    (hWord : IsConnective word) (h : HasTags text tags) (h' : HasTags text' tags') :
    HasTags (text ++ (word ++ text')) (tags ++ tags') := by
  intro rest hRest
  rw [List.append_assoc, List.append_assoc, h _ (hWord.endsTag _), hWord.opens, h' rest hRest,
    List.append_assoc]

theorem HasTags.parenthesized {text : List Char} {tags : List (List Char)}
    (h : HasTags text tags) : HasTags ('(' :: text ++ [')']) tags := by
  intro rest hRest
  have hClosing : EndsTag (')' :: rest) := by simp [EndsTag, inTag]
  have hOpening : tagTokens true none ('(' :: text ++ [')'] ++ rest) =
      tagTokens true none (text ++ ')' :: rest) := by
    rw [List.append_assoc]
    rfl
  rw [hOpening, h _ hClosing]
  rfl

/-- A text out of which certain folders and tags are picked. -/
def Yields (text : List Char) (folders tags : List (List Char)) : Prop :=
  ∃ unquoted, HasQuoted text folders unquoted ∧ HasTags unquoted tags

theorem yields_nil : Yields [] [] [] :=
  ⟨[], hasQuoted_plain List.not_mem_nil, hasTags_nil⟩

theorem yields_tag {tag : List Char} (hSome : tag ≠ []) (hTag : ∀ c ∈ tag, inTag c = true) :
    Yields ('#' :: tag) [] [tag] := by
  refine ⟨'#' :: tag, hasQuoted_plain ?_, hasTags_tag hSome hTag⟩
  intro hQuote
  have hIn := hTag '"' ((List.mem_cons.1 hQuote).resolve_left (by decide))
  simp [inTag] at hIn

/-- Nothing in quotes counts as a tag. -/
theorem yields_literal {folder : List Char} (h : ∀ c ∈ folder, c ≠ '"' ∧ c ≠ '\\') :
    Yields (literal folder) [folder] [] := by
  have hEscaped : escapeQuotes folder = folder := by
    rw [escapeQuotes, List.flatMap_congr (g := fun c => [c]), List.flatMap_singleton']
    intro c hc
    simp [h c hc]
  refine ⟨[' '], fun rest => ?_, hasTags_blank⟩
  have hInside : '"' ∉ folder := fun hQuote => (h '"' hQuote).1 rfl
  have hQuoted := splitQuoted_quoted hInside rest
  rw [literal, hEscaped, List.append_assoc, List.singleton_append, hQuoted]
  rfl

variable {text text' : List Char} {folders folders' tags tags' : List (List Char)}

theorem Yields.connect {word : List Char} (hWord : IsConnective word)
    (h : Yields text folders tags) (h' : Yields text' folders' tags') :
    Yields (text ++ (word ++ text')) (folders ++ folders') (tags ++ tags') := by
  obtain ⟨unquoted, hQuoted, hTags⟩ := h
  obtain ⟨unquoted', hQuoted', hTags'⟩ := h'
  have hBetween := (hasQuoted_plain hWord.unquoted).append hQuoted'
  exact ⟨_, hQuoted.append hBetween, hTags.connect hWord hTags'⟩

theorem Yields.parenthesized (h : Yields text folders tags) :
    Yields ('(' :: text ++ [')']) folders tags := by
  obtain ⟨unquoted, hQuoted, hTags⟩ := h
  have hOpening : HasQuoted ['('] [] ['('] := hasQuoted_plain (by decide)
  have hClosing : HasQuoted [')'] [] [')'] := hasQuoted_plain (by decide)
  have hAll := (hOpening.append hQuoted).append hClosing
  rw [List.nil_append, List.append_nil] at hAll
  exact ⟨_, hAll, hTags.parenthesized⟩

section Alternatives

variable {α : Type} {part : α → List Char} {foldersOf tagsOf : α → List (List Char)}

theorem yields_joined {word : String} (hWord : IsConnective word.toList) {first : α}
    {rest : List α} (h : ∀ a ∈ first :: rest, Yields (part a) (foldersOf a) (tagsOf a)) :
    Yields (joined word ((first :: rest).map part)) ((first :: rest).flatMap foldersOf)
      ((first :: rest).flatMap tagsOf) := by
  induction rest generalizing first with
  | nil => simpa [joined] using h
  | cons second rest ih =>
      obtain ⟨hFirst, hRest⟩ := List.forall_mem_cons.1 h
      rw [List.map_cons, List.map_cons, joined_cons, List.flatMap_cons, List.flatMap_cons]
      exact hFirst.connect hWord (ih hRest)

/-- Of alternatives everything is picked in order. -/
theorem yields_alternatives {items : List α}
    (h : ∀ a ∈ items, Yields (part a) (foldersOf a) (tagsOf a)) :
    Yields ((alternatives (items.map part)).getD []) (items.flatMap foldersOf)
      (items.flatMap tagsOf) := by
  rcases items with _ | ⟨first, _ | ⟨second, rest⟩⟩
  · exact yields_nil
  · simpa [alternatives] using h
  · exact (yields_joined isConnective_or h).parenthesized

end Alternatives

theorem Yields.eq_nil (h : Yields [] folders tags) : folders = [] ∧ tags = [] := by
  obtain ⟨unquoted, hQuoted, hTags⟩ := h
  have hEmpty := hQuoted []
  rw [List.append_nil, splitQuoted_nil, List.append_nil, List.append_nil, Prod.mk.injEq] at hEmpty
  obtain ⟨rfl, rfl⟩ := hEmpty
  have hNone := hTags [] endsTag_nil
  rw [List.append_nil, tagTokens_nil, tagTokens_nil, List.append_nil] at hNone
  exact ⟨rfl, hNone.symm⟩

/-- Of two clauses that must both hold everything is picked in order; one that is missing has
nothing in it. -/
theorem yields_conjunction {part part' : Option (List Char)}
    (hCompact : ∀ clause ∈ part, IsCompact clause) (hCompact' : ∀ clause ∈ part', IsCompact clause)
    (h : Yields (part.getD []) folders tags) (h' : Yields (part'.getD []) folders' tags') :
    Yields (conjunction (part.toList ++ part'.toList)) (folders ++ folders') (tags ++ tags') := by
  cases part with
  | none =>
      obtain ⟨rfl, rfl⟩ := h.eq_nil
      cases part' with
      | none => exact h'
      | some clause => exact h'
  | some clause =>
      cases part' with
      | none =>
          obtain ⟨rfl, rfl⟩ := h'.eq_nil
          rw [List.append_nil, List.append_nil]
          exact h
      | some clause' =>
          have hText : conjunction [clause, clause'] = clause ++ (" AND ".toList ++ clause') := by
            simp [conjunction, joined, asOperand_of_isCompact (hCompact clause rfl),
              asOperand_of_isCompact (hCompact' clause' rfl)]
          show Yields (conjunction [clause, clause']) _ _
          rw [hText]
          exact h.connect isConnective_and h'

theorem isEntry_tag {f : Filter} {tag : String} (h : tag ∈ f.tagNames) (hHash : '#' ∉ tag.toList) :
    Text.IsEntry bareTag tag.toList := by
  have hName := List.mem_eraseDups.1 h
  have hStripped := isCleaner_bareTag.strip_name hName
  refine isCleaner_bareTag.isEntry hName ((bareTag_eq_self_iff hStripped).2 fun hFirst => ?_)
  exact hHash (List.mem_of_head? hFirst)

theorem isEntry_folder {f : Filter} {folder : String} (h : folder ∈ f.folderNames)
    (hQuote : '"' ∉ folder.toList) : Text.IsEntry bareFolder folder.toList := by
  have hName := List.mem_eraseDups.1 h
  have hStripped := isCleaner_bareFolder.strip_name hName
  refine isCleaner_bareFolder.isEntry hName ((bareFolder_eq_self_iff hStripped).2 ⟨?_, ?_⟩)
  · exact fun hFirst => hQuote (List.mem_of_head? hFirst)
  · exact fun hLast => hQuote (List.mem_of_getLast? hLast)

section Source

variable {f : Filter}
  (hTags : ∀ tag ∈ f.tagNames, ∀ c ∈ tag.toList,
    Text.isBlank c = false ∧ c ≠ '#' ∧ c ≠ '(' ∧ c ≠ ')' ∧ c ≠ '"')
  (hFolders : ∀ folder ∈ f.folderNames, ∀ c ∈ folder.toList, c ≠ '"' ∧ c ≠ '\\')

include hTags in
theorem isEntry_of_mem_tagNames : ∀ tag ∈ f.tagNames, Text.IsEntry bareTag tag.toList :=
  fun tag hTag => isEntry_tag hTag fun hHash => (hTags tag hTag '#' hHash).2.1 rfl

include hFolders in
theorem isEntry_of_mem_folderNames :
    ∀ folder ∈ f.folderNames, Text.IsEntry bareFolder folder.toList :=
  fun folder hFolder => isEntry_folder hFolder fun hQuote =>
    (hFolders folder hFolder '"' hQuote).1 rfl

theorem isCompact_of_mem {part : Option (List Char)} {e : Option Query.Tree}
    (h : Option.Rel IsClause part e) : ∀ clause ∈ part, IsCompact clause := by
  cases h with
  | none => exact fun clause hClause => absurd hClause (Option.not_mem_none clause)
  | some hClause =>
      rintro _ ⟨⟩
      exact hClause.compact

include hTags in
theorem isCompact_tagPart : ∀ clause ∈ f.tagPart, IsCompact clause := by
  refine isCompact_of_mem (alternatives_isClause fun tag hTag =>
    tag_isClause (toList_ne_nil_of_mem_tagNames hTag) fun c hc => ?_)
  obtain ⟨hBlank, -, hOpening, hClosing, hQuote⟩ := hTags tag hTag c hc
  simp [Query.Token.endsWord, hBlank, hOpening, hClosing, hQuote]

theorem isCompact_folderPart : ∀ clause ∈ f.folderPart, IsCompact clause :=
  isCompact_of_mem (alternatives_isClause fun folder _ => folder_isClause folder)

include hTags in
theorem yields_tagPart : Yields (f.tagPart.getD []) [] (f.tagNames.map String.toList) := by
  have hYields : ∀ tag ∈ f.tagNames, Yields ('#' :: tag.toList) [] [tag.toList] := by
    intro tag hTag
    have hEntry := isEntry_of_mem_tagNames hTags tag hTag
    refine yields_tag hEntry.ne_nil fun c hc => ?_
    have hComma : c ≠ ',' := fun hSame => hEntry.unsplit (hSame ▸ hc)
    simp [inTag, hTags tag hTag c hc, hComma]
  have hAll := yields_alternatives hYields
  rwa [List.flatMap_eq_nil_iff.2 fun _ _ => rfl, ← List.map_eq_flatMap] at hAll

include hFolders in
theorem yields_folderPart :
    Yields (f.folderPart.getD []) (f.folderNames.map String.toList) [] := by
  have hAll := yields_alternatives fun folder hFolder => yields_literal (hFolders folder hFolder)
  rwa [List.flatMap_eq_nil_iff.2 fun _ _ => rfl, ← List.map_eq_flatMap] at hAll

include hTags hFolders in
/-- Out of what is sent to a provider for a filter, its folders and tags are picked. -/
theorem yields_source : Yields f.compile.source.toList (f.folderNames.map String.toList)
    (f.tagNames.map String.toList) := by
  have hBoth := yields_conjunction isCompact_folderPart (isCompact_tagPart hTags)
    (yields_folderPart hFolders) (yields_tagPart hTags)
  rw [List.append_nil, List.nil_append] at hBoth
  rwa [compile, String.toList_ofList]

end Source

/-- The filter of a query in free text, from its quoted parts and the rest of it. -/
theorem ofFreeText_eq {query : String} {quoted : List (List Char)} {unquoted : List Char}
    (h : splitQuoted query.toList = (quoted, unquoted)) : ofFreeText query =
      ⟨Text.join ", " ((tagTokens true none unquoted).eraseDups.map String.ofList),
        Text.join ", " (((quoted.map (Text.strip Text.isBlank)).filter
          fun folder => !folder.isEmpty).eraseDups.map String.ofList), []⟩ := by
  simp only [ofFreeText, h]

theorem tagTokens_of_blank {text : List Char} (h : ∀ c ∈ text, Text.isBlank c = true)
    (opened : Bool) : tagTokens opened none text = [] := by
  induction text generalizing opened with
  | nil => rfl
  | cons c rest ih =>
      obtain ⟨hFirst, hRest⟩ := List.forall_mem_cons.1 h
      have hTag : ¬(c = '#' ∧ opened = true) := by
        rintro ⟨rfl, -⟩
        cases hFirst
      rw [tagTokens, if_neg hTag, ih hRest]

theorem ofFreeText_of_blank {query : String}
    (h : ∀ c ∈ query.toList, Text.isBlank c = true) : ofFreeText query = .everything := by
  have hQuote : '"' ∉ query.toList := fun hMem => by cases h '"' hMem
  have hSplit : splitQuoted query.toList = ([], query.toList) := by
    simpa [splitQuoted_nil] using hasQuoted_plain hQuote []
  rw [ofFreeText_eq hSplit, tagTokens_of_blank h]
  rfl

theorem ofTagShorthand_of_blank {text : String}
    (h : ∀ c ∈ text.toList, Text.isBlank c = true) : ofTagShorthand text = .everything := by
  have hBreaks : ∀ c ∈ text.toList, (c == ',' || Text.isBlank c) = true :=
    fun c hMem => by rw [h c hMem, Bool.or_true]
  have hNone : ((Text.splitWhere (fun c => c == ',' || Text.isBlank c) text.toList).map
      (Text.dropStart (· == '#'))).filter (fun tag => !tag.isEmpty) = [] := by
    rw [List.filter_eq_nil_iff]
    intro tag hTag
    obtain ⟨word, hWord, rfl⟩ := List.mem_map.1 hTag
    simp [Text.eq_nil_of_mem_splitWhere hBreaks hWord, Text.dropStart]
  rw [ofTagShorthand, hNone]
  rfl

/-- A list of names that were picked is written once each and listed as it was. -/
theorem listed_join {clean : List Char → List Char} (hEmpty : clean [] = []) {names : List String}
    (hOnce : names.Nodup) (h : ∀ name ∈ names, Text.IsEntry clean name.toList) :
    (Text.entriesWith clean (Text.join ", " ((names.map String.toList).eraseDups.map
      String.ofList))).eraseDups = names := by
  have hChars : (names.map String.toList).Nodup :=
    List.Nodup.map (fun _ _ => String.toList_inj.1) hOnce
  have hNames : (names.map String.toList).map String.ofList = names := by simp
  rw [Text.eraseDups_of_nodup hChars, hNames, Text.entriesWith_join hEmpty h,
    Text.eraseDups_of_nodup hOnce]

/-- The free-text reader picks the tags and folders of a filter out of its query for providers, in
order, if no tag has a character that ends tags in it and no folder has to be escaped. -/
theorem ofFreeText_source {f : Filter}
    (hTags : ∀ tag ∈ f.tagNames, ∀ c ∈ tag.toList,
      Text.isBlank c = false ∧ c ≠ '#' ∧ c ≠ '(' ∧ c ≠ ')' ∧ c ≠ '"')
    (hFolders : ∀ folder ∈ f.folderNames, ∀ c ∈ folder.toList, c ≠ '"' ∧ c ≠ '\\') :
    (ofFreeText f.compile.source).tagNames = f.tagNames ∧
      (ofFreeText f.compile.source).folderNames = f.folderNames ∧
      (ofFreeText f.compile.source).rules = [] := by
  obtain ⟨unquoted, hQuoted, hWords⟩ := yields_source hTags hFolders
  have hEntries := isEntry_of_mem_folderNames hFolders
  have hSplit : splitQuoted f.compile.source.toList =
      (f.folderNames.map String.toList, unquoted) := by
    have hAll := hQuoted []
    rwa [List.append_nil, splitQuoted_nil, List.append_nil, List.append_nil] at hAll
  have hPicked : tagTokens true none unquoted = f.tagNames.map String.toList := by
    have hAll := hWords [] endsTag_nil
    rwa [List.append_nil, tagTokens_nil, List.append_nil] at hAll
  have hTrimmed : ((f.folderNames.map String.toList).map (Text.strip Text.isBlank)).filter
      (fun folder => !folder.isEmpty) = f.folderNames.map String.toList := by
    have hStripped : (f.folderNames.map String.toList).map (Text.strip Text.isBlank) =
        f.folderNames.map String.toList := by
      rw [List.map_map]
      exact List.map_congr_left fun folder hFolder => (hEntries folder hFolder).stripped
    rw [hStripped, List.filter_eq_self]
    exact List.forall_mem_map.2 fun folder hFolder => by
      simpa using (hEntries folder hFolder).ne_nil
  rw [ofFreeText_eq hSplit, hPicked, hTrimmed]
  refine ⟨?_, ?_, rfl⟩
  · exact listed_join rfl (Text.nodup_eraseDups _) (isEntry_of_mem_tagNames hTags)
  · exact listed_join rfl (Text.nodup_eraseDups _) hEntries

/-- Two tags with marks in them, two folders of which one has a hash, an operator and parentheses in
its name, and a rule, which is not sent to a provider. -/
def clutter : Filter :=
  ⟨"#work, a!/b-c", "Plans (old) #x OR y, \"Notes\"", [⟨"status", "done"⟩]⟩

theorem clutter_ofFreeText :
    (∀ tag ∈ clutter.tagNames, ∀ c ∈ tag.toList,
      Text.isBlank c = false ∧ c ≠ '#' ∧ c ≠ '(' ∧ c ≠ ')' ∧ c ≠ '"') ∧
    (∀ folder ∈ clutter.folderNames, ∀ c ∈ folder.toList, c ≠ '"' ∧ c ≠ '\\') ∧
    (ofFreeText clutter.compile.source).tagNames = ["work", "a!/b-c"] ∧
    (ofFreeText clutter.compile.source).folderNames = ["Plans (old) #x OR y", "Notes"] ∧
    (ofFreeText clutter.compile.source).rules = [] := by
  have hTagNames : clutter.tagNames = ["work", "a!/b-c"] := by decide +kernel
  have hFolderNames : clutter.folderNames = ["Plans (old) #x OR y", "Notes"] := by decide +kernel
  have hTags : ∀ tag ∈ clutter.tagNames, ∀ c ∈ tag.toList,
      Text.isBlank c = false ∧ c ≠ '#' ∧ c ≠ '(' ∧ c ≠ ')' ∧ c ≠ '"' := by
    have hAll : clutter.tagNames.all (fun tag => tag.toList.all fun c =>
        !Text.isBlank c && c != '#' && c != '(' && c != ')' && c != '"') = true := by
      decide +kernel
    simpa only [List.all_eq_true, Bool.and_eq_true, Bool.not_eq_true', bne_iff_ne, and_assoc]
      using hAll
  have hFolders : ∀ folder ∈ clutter.folderNames, ∀ c ∈ folder.toList, c ≠ '"' ∧ c ≠ '\\' := by
    have hAll : clutter.folderNames.all (fun folder => folder.toList.all fun c =>
        c != '"' && c != '\\') = true := by decide +kernel
    simpa only [List.all_eq_true, Bool.and_eq_true, bne_iff_ne] using hAll
  have hRead := ofFreeText_source hTags hFolders
  rw [hTagNames, hFolderNames] at hRead
  exact ⟨hTags, hFolders, hRead⟩

/-- A folder with a backslash is written with two, and read back with two. -/
example : (ofFreeText (⟨"", "a\\b", []⟩ : Filter).compile.source).folderNames = ["a\\\\b"] := by
  decide +kernel

end Filter
end NoteBoard
