import NoteBoard.Query.Token
import NoteBoard.Text.Lowercase

/-!
Queries as trees. AND binds tighter than OR, both group to the left, and parentheses leave no
trace. A text without tokens is the query that takes everything.
-/

namespace NoteBoard.Query

/-- A query for notes. -/
inductive Tree where
  | all
  | tag (text : String)
  | folder (text : String)
  | and (left right : Tree)
  | or (left right : Tree)
deriving DecidableEq

namespace Tree

/-- A tag matches itself and the tags below it, whatever the case, with or without hashes. -/
def tagTakes (wanted tag : String) : Bool :=
  let bare (text : String) := Text.lowercase (Text.dropStart (· == '#') text.toList)
  bare tag == bare wanted || (bare wanted ++ ['/']).isPrefixOf (bare tag)

/-- A folder matches what lies below it, and the note of the same name; slashes at its ends do
not matter, and the root matches everything. -/
def folderTakes (folder path : String) : Bool :=
  let bare := Text.strip (· == '/') folder.toList
  bare.isEmpty || path.toList == bare || path.toList == bare ++ ".md".toList ||
    (bare ++ ['/']).isPrefixOf path.toList

/-- Whether a note with these tags at this path is taken. -/
def takes (tags : List String) (path : String) : Tree → Bool
  | .all => true
  | .tag wanted => tags.any (tagTakes wanted)
  | .folder wanted => folderTakes wanted path
  | .and left right => left.takes tags path && right.takes tags path
  | .or left right => left.takes tags path || right.takes tags path

/-- An expression that is being read: what stands before the last OR, and after it what stands
before the last AND. -/
structure Level where
  ors : Option Tree
  ands : Option Tree

/-- A reader between two tokens: the expression that is being read, those around it from the
inside out, and whether an operand is due. -/
structure Build where
  level : Level
  outer : List Level
  operandDue : Bool

namespace Level

def start : Level := ⟨none, none⟩

/-- Takes an operand. -/
def operand (l : Level) (e : Tree) : Level :=
  { l with ands := some (match l.ands with
      | some left => .and left e
      | none => e) }

/-- What has been read, `last` being what stands after the last OR. -/
def close (l : Level) (last : Tree) : Tree :=
  match l.ors with
  | some left => .or left last
  | none => last

end Level

namespace Build

/-- Takes an operand. -/
def operand (b : Build) (e : Tree) : Build :=
  ⟨b.level.operand e, b.outer, false⟩

/-- A token where an operand is due. -/
def stepOperand (b : Build) : Token → Except Error Build
  | .tag text => .ok (b.operand (.tag text))
  | .folder text => .ok (b.operand (.folder text))
  | .opening => .ok ⟨.start, b.level :: b.outer, true⟩
  | token => .error (.unexpectedToken token)

/-- The error of a token that cannot follow an operand. -/
def misplaced (b : Build) : Error :=
  if b.outer.isEmpty then .trailingInput else .unbalanced

/-- A token behind the operand `last`. -/
def stepOperator (b : Build) (last : Tree) : Token → Except Error Build
  | .and => .ok { b with operandDue := true }
  | .or => .ok ⟨⟨some (b.level.close last), none⟩, b.outer, true⟩
  | .closing => match b.outer with
    | level :: outer => .ok ⟨level.operand (b.level.close last), outer, false⟩
    | [] => .error b.misplaced
  | _ => .error b.misplaced

/-- One token further. -/
def step (b : Build) (token : Token) : Except Error Build :=
  match b.operandDue, b.level.ands with
  | false, some last => b.stepOperator last token
  | _, _ => b.stepOperand token

/-- The expression at the end of the tokens. -/
def finish (b : Build) : Except Error Tree :=
  match b.operandDue, b.level.ands with
  | false, some last => if b.outer.isEmpty then .ok (b.level.close last) else .error .unbalanced
  | _, _ => .error .endsEarly

end Build

/-- The tree of a list of tokens, of which there must be one. Reading them by `Descent` gives the
same tree, and the same error. -/
def ofTokens (tokens : List Token) : Except Error Tree := do
  Build.finish (← tokens.foldlM Build.step ⟨.start, [], true⟩)

/-- The tree of a query text. -/
def ofText (text : String) : Except Error Tree := do
  let tokens ← Token.ofChars text.toList
  if tokens.isEmpty then return .all else ofTokens tokens

end Tree

/-- The message of an error in a query text. -/
def Error.message (query : String) : Error → String
  | .unterminatedFolder => "unterminated path literal"
  | .unsupportedTerm word => "unsupported query term: " ++ word
  | .unexpectedToken token => "unexpected token in query: " ++ token.name
  | .unbalanced => "unbalanced parentheses"
  | .endsEarly => "query ended early"
  | .trailingInput => "unexpected trailing input in query: " ++ query

end NoteBoard.Query
