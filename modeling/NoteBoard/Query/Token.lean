import NoteBoard.Text.Blank

/-!
The words of a query: tags, folders in quotes, AND, OR and parentheses.
-/

namespace NoteBoard.Query

/-- A word of a query. A tag keeps its hash. -/
inductive Token where
  | opening
  | closing
  | and
  | or
  | tag (text : String)
  | folder (text : String)
deriving DecidableEq

/-- Why a text is not a query. -/
inductive Error where
  | unterminatedFolder
  | unsupportedTerm (word : String)
  | unexpectedToken (token : Token)
  | unbalanced
  | endsEarly
  | trailingInput
deriving DecidableEq

namespace Token

/-- The name of a token in messages. -/
def name : Token → String
  | .opening => "Open"
  | .closing => "Close"
  | .and => "And"
  | .or => "Or"
  | .tag text => "Tag(\"" ++ text ++ "\")"
  | .folder text => "Folder(\"" ++ text ++ "\")"

/-- The unit that a text is in the middle of, read so far with the last character first. -/
inductive Within where
  | gap
  | word (read : List Char)
  | quoted (read : List Char)
  | escaped (read : List Char)

/-- A reader between two characters: the unit it is in, and the tokens before that, last first. -/
structure Scan where
  within : Within
  tokens : List Token

/-- The token of a word: a tag, or one of the two operators in either case. -/
def ofWord (word : List Char) : Except Error Token :=
  if word.head? = some '#' ∧ word.length ≠ 1 then .ok (.tag (String.ofList word))
  else if word.map Char.toLower = "and".toList then .ok .and
  else if word.map Char.toLower = "or".toList then .ok .or
  else .error (.unsupportedTerm (String.ofList word))

/-- A character between two units. -/
def stepGap (tokens : List Token) (c : Char) : Scan :=
  if Text.isBlank c then ⟨.gap, tokens⟩
  else if c = '(' then ⟨.gap, .opening :: tokens⟩
  else if c = ')' then ⟨.gap, .closing :: tokens⟩
  else if c = '"' then ⟨.quoted [], tokens⟩
  else ⟨.word [c], tokens⟩

/-- Whether a character ends a word. -/
def endsWord (c : Char) : Bool :=
  Text.isBlank c || c == '(' || c == ')' || c == '"'

/-- One character further. -/
def step (s : Scan) (c : Char) : Except Error Scan :=
  match s.within with
  | .gap => .ok (stepGap s.tokens c)
  | .word read =>
    if endsWord c then do
      let token ← ofWord read.reverse
      return stepGap (token :: s.tokens) c
    else .ok ⟨.word (c :: read), s.tokens⟩
  | .quoted read =>
    if c = '\\' then .ok ⟨.escaped read, s.tokens⟩
    else if c = '"' then .ok ⟨.gap, .folder (String.ofList read.reverse) :: s.tokens⟩
    else .ok ⟨.quoted (c :: read), s.tokens⟩
  | .escaped read => .ok ⟨.quoted (c :: read), s.tokens⟩

/-- The tokens at the end of the text. -/
def finish (s : Scan) : Except Error (List Token) :=
  match s.within with
  | .gap => .ok s.tokens.reverse
  | .word read => do
    let token ← ofWord read.reverse
    return (token :: s.tokens).reverse
  | _ => .error .unterminatedFolder

/-- The tokens of a text. -/
def ofChars (text : List Char) : Except Error (List Token) := do
  finish (← text.foldlM step ⟨.gap, []⟩)

end Token
end NoteBoard.Query
