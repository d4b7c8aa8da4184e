import NoteBoard.Filter.Basic

/-!
Filters out of free text that people typed before filters had parts: tags and quoted folders are
picked out of a query, and a list of tags is read with or without hashes. How the parts were
combined is not kept.
-/

namespace NoteBoard
namespace Filter

/-- The parts of a text in double quotes, and the text with a blank in place of each. A quote
without a partner stays. -/
def splitQuoted (text : List Char) : List (List Char) × List Char :=
  go (Text.splitWhere (· == '"') text)
where
  /-- Pieces are outside and inside quotes in turn; the last one is never inside. -/
  go : List (List Char) → List (List Char) × List Char
    | outside :: inside :: next :: rest =>
      let (quoted, unquoted) := go (next :: rest)
      (inside :: quoted, outside ++ ' ' :: unquoted)
    | [outside, unclosed] => ([], outside ++ '"' :: unclosed)
    | [outside] => ([], outside)
    | [] => ([], [])

/-- Whether a tag can follow a character directly. -/
def opensTag (c : Char) : Bool :=
  Text.isBlank c || c == '(' || c == ',' || c == '!' || c == '-'

/-- Whether a character can be part of a tag. -/
def inTag (c : Char) : Bool :=
  !(Text.isBlank c || c == '#' || c == '(' || c == ')' || c == ',' || c == '"')

/-- The tags in a text, without their hashes. `opened` says whether a tag can start here, and
`current` holds the tag that is being read, last character first. -/
def tagTokens (opened : Bool) (current : Option (List Char)) :
    List Char → List (List Char)
  | [] => match current with
    | some (c :: read) => [(c :: read).reverse]
    | _ => []
  | c :: rest =>
    match current with
    | some read =>
      if inTag c then tagTokens false (some (c :: read)) rest
      else if read.isEmpty then tagTokens (opensTag c) none rest
      else read.reverse :: tagTokens (opensTag c) none rest
    | none =>
      if c = '#' ∧ opened then tagTokens false (some []) rest
      else tagTokens (opensTag c) none rest

/-- A filter of the tags and quoted folders of a query in free text. -/
def ofFreeText (query : String) : Filter :=
  let (quoted, unquoted) := splitQuoted query.toList
  let folders := (quoted.map (Text.strip Text.isBlank)).filter fun folder => !folder.isEmpty
  let tags := tagTokens true none unquoted
  ⟨Text.join ", " (tags.eraseDups.map String.ofList),
    Text.join ", " (folders.eraseDups.map String.ofList), []⟩

/-- A filter of a list of tags with blanks or commas between them. -/
def ofTagShorthand (text : String) : Filter :=
  let words := Text.splitWhere (fun c => c == ',' || Text.isBlank c) text.toList
  let tags := (words.map (Text.dropStart (· == '#'))).filter fun tag => !tag.isEmpty
  ⟨Text.join ", " (tags.map String.ofList), "", []⟩

end Filter
end NoteBoard
