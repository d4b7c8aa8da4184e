import NoteBoard.Proofs.Filter.FreeText

/-! What is picked out of a query in free text. A query is read from left to right, with its quoted
parts and the tags outside of them. The tags come back as they were, each once; a quoted part comes
back as the comma list that its text is, so all of them come back exactly if none has a comma. -/
namespace NoteBoard

namespace Filter

/-- A text, read from left to right, with its quoted parts and the tags outside of them; the flag
says whether a tag can start where the text does. There a hash opens a tag, which goes as far as it
can. A quote without a partner opens nothing. -/
inductive Picks : Bool → List Char → List (List Char) → List (List Char) → Prop where
  | nil {opened : Bool} : Picks opened [] [] []
  /-- Behind a quoted part a tag can start. -/
  | quoted {opened : Bool} {inside rest : List Char} {quoted tags : List (List Char)}
      (hInside : '"' ∉ inside) (h : Picks true rest quoted tags) :
      Picks opened ('"' :: inside ++ '"' :: rest) (inside :: quoted) tags
  | tag {tag rest : List Char} {quoted tags : List (List Char)}
      (hSome : tag ≠ []) (hTag : ∀ c ∈ tag, inTag c = true)
      (hEnd : ∀ c ∈ rest.head?, inTag c = false) (h : Picks false rest quoted tags) :
      Picks true ('#' :: tag ++ rest) quoted (tag :: tags)
  /-- Any other character, behind which a tag can start if it opens tags. -/
  | plain {opened : Bool} {c : Char} {rest : List Char} {quoted tags : List (List Char)}
      (hQuote : c = '"' → '"' ∉ rest)
      (hHash : c = '#' → opened = true → ∀ d ∈ rest.head?, inTag d = false)
      (h : Picks (opensTag c) rest quoted tags) : Picks opened (c :: rest) quoted tags

variable {opened : Bool} {text : List Char} {quoted tags : List (List Char)}

/-- A character of a tag starts a tag that goes as far as it can. -/
theorem exists_tag_append {c : Char} (hc : inTag c = true) (others : List Char) :
    ∃ tag rest, c :: others = tag ++ rest ∧ tag ≠ [] ∧ (∀ d ∈ tag, inTag d = true) ∧
      ∀ d ∈ rest.head?, inTag d = false := by
  refine ⟨c :: others.takeWhile inTag, others.dropWhile inTag, ?_, List.cons_ne_nil _ _, ?_, ?_⟩
  · rw [List.cons_append, List.takeWhile_append_dropWhile]
  · exact List.forall_mem_cons.2 ⟨hc, fun d hd => List.mem_takeWhile_imp hd⟩
  · exact Text.dropStart_eq_self_iff.1 (List.dropWhile_idempotent inTag others)

/-- Any text can be read. -/
theorem exists_picks (opened : Bool) (text : List Char) :
    ∃ quoted tags, Picks opened text quoted tags := by
  induction hLength : text.length using Nat.strong_induction_on generalizing opened text with
  | _ length ih =>
      subst hLength
      cases text with
      | nil => exact ⟨[], [], .nil⟩
      | cons c rest =>
          obtain ⟨quoted, tags, hRest⟩ := ih rest.length (by simp) (opensTag c) rest rfl
          by_cases hQuote : c = '"' ∧ '"' ∈ rest
          · obtain ⟨rfl, hPartner⟩ := hQuote
            obtain ⟨inside, after, rfl, hInside⟩ := List.eq_append_cons_of_mem hPartner
            obtain ⟨quoted, tags, hAfter⟩ := ih after.length (by simp; omega) true after rfl
            exact ⟨_, _, .quoted hInside hAfter⟩
          by_cases hPlain : c = '#' → opened = true → ∀ d ∈ rest.head?, inTag d = false
          · exact ⟨quoted, tags, .plain (fun hc hMem => hQuote ⟨hc, hMem⟩) hPlain hRest⟩
          · -- A hash that opens a tag, whose first character is `d`.
            push Not at hPlain
            obtain ⟨rfl, rfl, d, hFirst, hd⟩ := hPlain
            obtain ⟨others, rfl⟩ := List.head?_eq_some_iff.1 hFirst
            obtain ⟨tag, after, hText, hSome, hTag, hEnd⟩ :=
              exists_tag_append (by simpa using hd) others
            have hShorter : after.length < ('#' :: d :: others).length := by
              rw [hText, List.length_cons, List.length_append]
              omega
            obtain ⟨quoted, tags, hAfter⟩ := ih after.length hShorter false after rfl
            rw [hText]
            exact ⟨_, _, .tag hSome hTag hEnd hAfter⟩

theorem splitQuoted_unclosed {rest : List Char} (h : '"' ∉ rest) :
    splitQuoted ('"' :: rest) = ([], '"' :: rest) := by
  have hNone : ∀ c ∈ rest, (c == '"') = false :=
    fun c hc => beq_eq_false_iff_ne.2 fun hSame => h (hSame ▸ hc)
  have hPieces : Text.splitWhere (· == '"') ('"' :: rest) = [[], rest] := by
    rw [Text.splitWhere_eq_splitOnP, List.splitOnP_cons_eq_if_modifyHead,
      if_pos (beq_self_eq_true _), List.splitOnP_eq_singleton hNone]
  rw [splitQuoted, hPieces]
  rfl

/-- A character that opens no quoted part stays outside. -/
theorem splitQuoted_plain {c : Char} {rest : List Char} (h : c = '"' → '"' ∉ rest) :
    splitQuoted (c :: rest) = ((splitQuoted rest).1, c :: (splitQuoted rest).2) := by
  by_cases hQuote : c = '"'
  · have hRest := hasQuoted_plain (h hQuote) []
    rw [List.append_nil, splitQuoted_nil, List.append_nil, List.append_nil] at hRest
    rw [hQuote, splitQuoted_unclosed (h hQuote), hRest]
  · exact splitQuoted_cons hQuote rest

/-- Where no tag goes on in a query, none does with blanks in place of the quoted parts. -/
theorem head?_splitQuoted {rest : List Char} (h : ∀ c ∈ rest.head?, inTag c = false) :
    ∀ c ∈ (splitQuoted rest).2.head?, inTag c = false := by
  cases rest with
  | nil => exact h
  | cons c rest =>
      by_cases hQuote : c = '"' ∧ '"' ∈ rest
      · obtain ⟨rfl, hPartner⟩ := hQuote
        obtain ⟨inside, after, rfl, hInside⟩ := List.eq_append_cons_of_mem hPartner
        rw [← List.cons_append, splitQuoted_quoted hInside]
        rintro _ ⟨⟩
        decide
      · rw [splitQuoted_plain fun hc hMem => hQuote ⟨hc, hMem⟩]
        exact h

theorem tagTokens_cons {opened : Bool} {c : Char} {rest : List Char}
    (h : c = '#' → opened = true → ∀ d ∈ rest.head?, inTag d = false) :
    tagTokens opened none (c :: rest) = tagTokens (opensTag c) none rest := by
  by_cases hHash : c = '#' ∧ opened = true
  · obtain ⟨rfl, rfl⟩ := hHash
    cases rest with
    | nil => rfl
    | cons d rest =>
        have hd := h rfl rfl d rfl
        have hSharp : opensTag '#' = false := by decide
        simp [tagTokens, hd, hSharp]
  · simp [tagTokens, hHash]

/-- What is picked out of a text is what its quoted parts and its tags are read as. -/
theorem Picks.eq (h : Picks opened text quoted tags) :
    (splitQuoted text).1 = quoted ∧ tagTokens opened none (splitQuoted text).2 = tags := by
  induction h with
  | nil => exact ⟨rfl, rfl⟩
  | quoted hInside _ ih =>
      obtain ⟨hQuoted, hTags⟩ := ih
      rw [splitQuoted_quoted hInside, hQuoted]
      refine ⟨rfl, ?_⟩
      rw [tagTokens_cons (by simp)]
      exact hTags
  | @tag tag rest quoted tags hSome hTag hEnd _ ih =>
      obtain ⟨hQuoted, hTags⟩ := ih
      have hPlain : '"' ∉ '#' :: tag := by
        intro hQuote
        have hIn := hTag '"' ((List.mem_cons.1 hQuote).resolve_left (by decide))
        simp [inTag] at hIn
      rw [hasQuoted_plain hPlain rest]
      refine ⟨hQuoted, ?_⟩
      rw [tagTokens_tag hSome hTag (head?_splitQuoted hEnd), hTags]
  | @plain opened c rest quoted tags hQuote hHash _ ih =>
      obtain ⟨hQuoted, hTags⟩ := ih
      rw [splitQuoted_plain hQuote,
        tagTokens_cons fun hc hOpened => head?_splitQuoted (hHash hc hOpened)]
      exact ⟨hQuoted, hTags⟩

/-- Parts in quotes have none inside, and tags are not empty. -/
theorem Picks.forall_mem (h : Picks opened text quoted tags) :
    (∀ part ∈ quoted, '"' ∉ part) ∧ ∀ tag ∈ tags, tag ≠ [] ∧ ∀ c ∈ tag, inTag c = true := by
  induction h with
  | nil => simp
  | quoted hInside _ ih => exact ⟨List.forall_mem_cons.2 ⟨hInside, ih.1⟩, ih.2⟩
  | tag hSome hTag _ _ ih => exact ⟨ih.1, List.forall_mem_cons.2 ⟨⟨hSome, hTag⟩, ih.2⟩⟩
  | plain _ _ _ ih => exact ih

/-- A tag can stand in a comma list. -/
theorem isEntry_word {tag : List Char} (hSome : tag ≠ []) (hTag : ∀ c ∈ tag, inTag c = true) :
    Text.IsEntry bareTag tag := by
  have hWord : ∀ c ∈ tag, Text.isBlank c = false ∧ c ≠ '#' ∧ c ≠ ',' := by
    intro c hc
    have hIn := hTag c hc
    simp only [inTag, Bool.not_eq_true', Bool.or_eq_false_iff, beq_eq_false_iff_ne] at hIn
    tauto
  have hStripped : Text.strip Text.isBlank tag = tag :=
    Text.strip_eq_self_iff.2 ⟨fun c hc => (hWord c (List.mem_of_head? hc)).1,
      fun c hc => (hWord c (List.mem_of_getLast? hc)).1⟩
  refine ⟨hSome, fun hComma => (hWord ',' hComma).2.2 rfl, hStripped, ?_⟩
  rw [bareTag_eq_self_iff hStripped]
  exact fun hHash => (hWord '#' (List.mem_of_head? hHash)).2.1 rfl

/-- Without quotes in it, a list of folders is a plain comma list. -/
theorem entriesWith_bareFolder {text : String} (h : '"' ∉ text.toList) :
    Text.entriesWith bareFolder text = Text.entries text := by
  have hPieces : (Text.splitWhere (· == ',') text.toList).map
        (bareFolder ∘ Text.strip Text.isBlank) =
      (Text.splitWhere (· == ',') text.toList).map (id ∘ Text.strip Text.isBlank) := by
    refine List.map_congr_left fun piece hPiece => ?_
    have hQuote : '"' ∉ Text.strip Text.isBlank piece :=
      fun hMem => h (Text.of_mem_splitWhere hPiece '"' (Text.strip_subset _ _ hMem)).1
    refine (bareFolder_eq_self_iff (Text.strip_strip _ _)).2 ⟨?_, ?_⟩
    · exact fun hFirst => hQuote (List.mem_of_head? hFirst)
    · exact fun hLast => hQuote (List.mem_of_getLast? hLast)
  rw [Text.entries, Text.entriesWith, hPieces, Text.entriesWith]

/-- The texts of quoted parts without white space at their ends, less the empty ones. -/
def partNames (quoted : List (List Char)) : List String :=
  (quoted.map fun part => Text.trim (String.ofList part)).filter fun name => !name.isEmpty

theorem partNames_eq (quoted : List (List Char)) : partNames quoted =
    ((quoted.map (Text.strip Text.isBlank)).filter fun part => !part.isEmpty).map
      String.ofList := by
  have hEmpty : ∀ part, (String.ofList part).isEmpty = part.isEmpty := by
    intro part
    rw [Bool.eq_iff_iff, String.isEmpty_iff, String.ofList_eq_empty_iff, List.isEmpty_iff]
  simp [partNames, Text.trim, List.filter_map, Function.comp_def, hEmpty]

section Query

variable {query : String}

theorem ofFreeText_of_picks (h : Picks true query.toList quoted tags) :
    ofFreeText query = ⟨Text.join ", " (tags.map String.ofList).eraseDups,
      Text.join ", " (partNames quoted).eraseDups, []⟩ := by
  obtain ⟨rfl, hTags⟩ := h.eq
  have hParts : splitQuoted query.toList =
      ((splitQuoted query.toList).1, (splitQuoted query.toList).2) := rfl
  have hInjective : Function.Injective String.ofList := fun _ _ => String.ofList_injective
  rw [ofFreeText_eq hParts, hTags, partNames_eq, Text.eraseDups_map hInjective,
    Text.eraseDups_map hInjective]

theorem tagNames_ofFreeText (h : Picks true query.toList quoted tags) :
    (ofFreeText query).tagNames = (tags.map String.ofList).eraseDups := by
  have hEntries : ∀ tag ∈ (tags.map String.ofList).eraseDups,
      Text.IsEntry bareTag tag.toList := by
    intro name hName
    obtain ⟨tag, hTag, rfl⟩ := List.mem_map.1 (List.mem_eraseDups.1 hName)
    obtain ⟨hSome, hWord⟩ := h.forall_mem.2 tag hTag
    rw [String.toList_ofList]
    exact isEntry_word hSome hWord
  rw [ofFreeText_of_picks h, tagNames, Text.entriesWith_join rfl hEntries,
    Text.eraseDups_of_nodup (Text.nodup_eraseDups _)]

/-- A quoted part comes back as the entries of the comma list that it is read as. -/
theorem folderNames_ofFreeText (h : Picks true query.toList quoted tags) :
    (ofFreeText query).folderNames = ((partNames quoted).flatMap Text.entries).eraseDups := by
  have hQuotes : ∀ name ∈ partNames quoted, '"' ∉ name.toList := by
    intro name hName hMem
    obtain ⟨part, hPart, rfl⟩ := List.mem_map.1 (List.mem_filter.1 hName).1
    rw [Text.toList_trim, String.toList_ofList] at hMem
    exact h.forall_mem.1 part hPart (Text.strip_subset _ _ hMem)
  rw [ofFreeText_of_picks h, folderNames, Text.entriesWith_join_eq_flatMap rfl,
    Text.eraseDups_flatMap_eraseDups,
    List.flatMap_congr fun name hName => entriesWith_bareFolder (hQuotes name hName)]

/-- The quoted parts come back as they are exactly if none has a comma. -/
theorem folderNames_ofFreeText_eq_iff (h : Picks true query.toList quoted tags) :
    (ofFreeText query).folderNames = (partNames quoted).eraseDups ↔
      ∀ part ∈ quoted, ',' ∉ part := by
  rw [folderNames_ofFreeText h]
  constructor
  · intro hSame part hPart hComma
    -- An entry of a comma list has no comma, so that a part with one is not listed.
    have hText : ',' ∈ (String.ofList part).toList := by rwa [String.toList_ofList]
    have hSome := Text.trim_ne_of_mem hText (by decide)
    have hName : Text.trim (String.ofList part) ∈ partNames quoted :=
      List.mem_filter.2 ⟨List.mem_map_of_mem hPart, by simpa using hSome⟩
    rw [← List.mem_eraseDups, ← hSame, List.mem_eraseDups] at hName
    obtain ⟨name, -, hEntry⟩ := List.mem_flatMap.1 hName
    obtain ⟨piece, hUnsplit, hClean, -⟩ := Text.exists_of_mem_entriesWith hEntry
    have hKept := Text.mem_strip hText (by decide : Text.isBlank ',' = false)
    rw [← Text.toList_trim, hClean] at hKept
    exact hUnsplit (Text.strip_subset _ _ hKept)
  · intro hNone
    have hEntries : ∀ name ∈ partNames quoted, Text.entries name = [name] := by
      intro name hName
      obtain ⟨hPart, hSome⟩ := List.mem_filter.1 hName
      obtain ⟨part, hMem, rfl⟩ := List.mem_map.1 hPart
      refine Text.IsEntry.entriesWith_eq ⟨by simpa using hSome, ?_, ?_, rfl⟩
      · rw [Text.toList_trim, String.toList_ofList]
        exact fun hComma => hNone part hMem (Text.strip_subset _ _ hComma)
      · rw [Text.toList_trim, Text.strip_strip]
    rw [List.flatMap_congr (g := fun name => [name]) hEntries, List.flatMap_singleton']

end Query

/-- Every query is read in one way. Its tags are what its filter lists, each once and in order; its
quoted parts are read as comma lists, and what the filter lists are their entries, so that the parts
come back, each once and in order, exactly if none of them has a comma. -/
theorem ofFreeText_picked (query : String) : ∃ quoted tags,
    (∀ quoted' tags', Picks true query.toList quoted' tags' ↔ quoted' = quoted ∧ tags' = tags) ∧
    (ofFreeText query).tagNames = (tags.map String.ofList).eraseDups ∧
    (ofFreeText query).folderNames = ((partNames quoted).flatMap Text.entries).eraseDups ∧
    ((ofFreeText query).folderNames = (partNames quoted).eraseDups ↔
      ∀ part ∈ quoted, ',' ∉ part) := by
  obtain ⟨quoted, tags, hPicks⟩ := exists_picks true query.toList
  refine ⟨quoted, tags, fun quoted' tags' => ⟨fun hOther => ?_, ?_⟩, tagNames_ofFreeText hPicks,
    folderNames_ofFreeText hPicks, folderNames_ofFreeText_eq_iff hPicks⟩
  · obtain ⟨hQuoted, hTags⟩ := hPicks.eq
    obtain ⟨hQuoted', hTags'⟩ := hOther.eq
    exact ⟨hQuoted'.symm.trans hQuoted, hTags'.symm.trans hTags⟩
  · rintro ⟨rfl, rfl⟩
    exact hPicks

/-- The dash belongs to the tag before it, so that no tag follows; the folder has a comma. -/
example : (ofFreeText "#a-#b AND \"Inbox, old\"").tagNames = ["a-"] ∧
    (ofFreeText "#a-#b AND \"Inbox, old\"").folderNames = ["Inbox", "old"] := by
  decide +kernel

end Filter
end NoteBoard
