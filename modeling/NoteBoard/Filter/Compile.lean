import NoteBoard.Filter.Condition

/-!
The query text of a filter. Folders and tags become alternatives in parentheses, joined by AND;
the rules on fields are written along, but only the part without them is sent to a provider.
-/

namespace NoteBoard

/-- A filter as text for providers, with the condition to check on what they return. -/
structure FilterQuery where
  query : String
  source : String
  condition : Condition
deriving DecidableEq

namespace Filter

/-- A text inside quotes: quotes and backslashes have a backslash before them. -/
def escapeQuotes (text : List Char) : List Char :=
  text.flatMap fun c => if c = '\\' ∨ c = '"' then ['\\', c] else [c]

/-- A text in quotes. -/
def literal (text : List Char) : List Char :=
  '"' :: escapeQuotes text ++ ['"']

/-- The parts with a word between each two. -/
def joined (word : String) (parts : List (List Char)) : List Char :=
  word.toList.intercalate parts

/-- Alternatives: one stands as it is, several stand in parentheses. -/
def alternatives : List (List Char) → Option (List Char)
  | [] => none
  | [part] => some part
  | parts => some ('(' :: joined " OR " parts ++ [')'])

/-- Whether white space stands outside quotes and parentheses: the scan is at a depth of
parentheses, inside quotes or not, and just behind a backslash or not. -/
def isSpread (depth : Int) (quoted escaped : Bool) : List Char → Bool
  | [] => false
  | c :: rest =>
    if escaped then isSpread depth quoted false rest
    else if c = '\\' ∧ quoted then isSpread depth quoted true rest
    else if c = '"' then isSpread depth (!quoted) false rest
    else if quoted then isSpread depth quoted false rest
    else if c = '(' then isSpread (depth + 1) quoted false rest
    else if c = ')' then isSpread (depth - 1) quoted false rest
    else if Text.isBlank c ∧ depth = 0 then true
    else isSpread depth quoted false rest

/-- In parentheses, unless it is a single operand. -/
def asOperand (clause : List Char) : List Char :=
  if isSpread 0 false false clause then '(' :: clause ++ [')'] else clause

/-- Clauses that must all hold: one stands as it is, several are grouped. -/
def conjunction : List (List Char) → List Char
  | [] => []
  | [clause] => clause
  | clauses => joined " AND " (clauses.map asOperand)

def tagPart (f : Filter) : Option (List Char) :=
  alternatives (f.tagNames.map fun tag => '#' :: tag.toList)

def folderPart (f : Filter) : Option (List Char) :=
  alternatives (f.folderNames.map fun folder => literal folder.toList)

/-- The clause of one rule. -/
def rulePart (r : FieldRule) : Option (List Char) :=
  if r.name.isEmpty then none
  else alternatives (r.wanted.map fun value =>
    "contains(".toList ++ r.name.toList ++ ", ".toList ++ literal value.toList ++ [')'])

/-- The clauses of all rules. -/
def rulesPart (f : Filter) : Option (List Char) :=
  match f.rules.filterMap rulePart with
  | [] => none
  | clauses => some (joined " AND " clauses)

/-- The query text of a filter, with and without its rules, and the condition of its rules. -/
def compile (f : Filter) : FilterQuery :=
  let native := f.folderPart.toList ++ f.tagPart.toList
  ⟨String.ofList (conjunction (native ++ f.rulesPart.toList)),
    String.ofList (conjunction native), Condition.ofRules f.rules⟩

/-- One query for what any of several filters takes. An unconstrained filter takes everything,
and so does an empty list. -/
def compileAny (filters : List Filter) : String :=
  let queries := filters.map fun f => f.compile.query
  if queries.any String.isEmpty then ""
  else match queries with
    | [query] => query
    | queries => String.ofList (joined " OR " (queries.map fun query => asOperand query.toList))

end Filter
end NoteBoard
