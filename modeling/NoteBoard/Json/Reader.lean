import NoteBoard.Json.Token

/-!
Reading JSON: from tokens to a value, with the open containers kept in a list.
-/

namespace NoteBoard.Json

variable {K : Type}

/-- An open container: its finished parts, last first, and for an object the name of the member
that is being read. -/
inductive Frame (K : Type) where
  | array (done : List (Json K))
  | object (done : List (Option String × Json K)) (name : Option String)

/-- What a reader waits for. -/
inductive Awaiting where
  | value
  | firstValue
  | name
  | firstName
  | colon
  | next
  | nothing
deriving DecidableEq

/-- A reader between two tokens, with the open containers from the inside out. -/
structure Build (K : Type) where
  frames : List (Frame K)
  awaiting : Awaiting
  result : Json K

namespace Build

/-- An object from its members, last first; a name that cannot be held spoils it. -/
def objectOf (done : List (Option String × Json K)) : Json K :=
  match done.reverse.mapM fun (name, value) => name.map (·, value) with
  | some members => .object members
  | none => .unusable

/-- Hands a finished value to the container around it. -/
def deliver (value : Json K) : List (Frame K) → Build K
  | [] => ⟨[], .nothing, value⟩
  | .array done :: outer => ⟨.array (value :: done) :: outer, .next, .null⟩
  | .object done name :: outer => ⟨.object ((name, value) :: done) none :: outer, .next, .null⟩

/-- Closes the innermost container. -/
def close (frames : List (Frame K)) : Option (Build K) :=
  let held (value : Json K) := if frames.length ≤ depthLimit then value else .unusable
  match frames with
  | .array done :: outer => some (deliver (held (.array done.reverse)) outer)
  | .object done _ :: outer => some (deliver (held (objectOf done)) outer)
  | [] => none

/-- Starts a value. -/
def openValue (frames : List (Frame K)) : Token K → Option (Build K)
  | .openArray => some ⟨.array [] :: frames, .firstValue, .null⟩
  | .openObject => some ⟨.object [] none :: frames, .firstName, .null⟩
  | .scalar value => some (deliver value frames)
  | .text (some value) => some (deliver (.text value) frames)
  | .text none => some (deliver .unusable frames)
  | _ => none

/-- Starts a member. -/
def openName : List (Frame K) → Token K → Option (Build K)
  | .object done _ :: outer, .text name => some ⟨.object done name :: outer, .colon, .null⟩
  | _, _ => none

/-- What follows a part of a container. -/
def continued : List (Frame K) → Token K → Option (Build K)
  | .array done :: outer, .comma => some ⟨.array done :: outer, .value, .null⟩
  | .array done :: outer, .closeArray => close (.array done :: outer)
  | .object done name :: outer, .comma => some ⟨.object done name :: outer, .name, .null⟩
  | .object done name :: outer, .closeObject => close (.object done name :: outer)
  | _, _ => none

/-- One token further. -/
def step (b : Build K) (token : Token K) : Option (Build K) :=
  match b.awaiting, token with
  | .value, _ => openValue b.frames token
  | .firstValue, .closeArray => close b.frames
  | .firstValue, _ => openValue b.frames token
  | .name, _ => openName b.frames token
  | .firstName, .closeObject => close b.frames
  | .firstName, _ => openName b.frames token
  | .colon, .colon => some ⟨b.frames, .value, .null⟩
  | .colon, _ => none
  | .next, _ => continued b.frames token
  | .nothing, _ => none

end Build

/-- The value that a list of tokens writes. -/
def ofTokens? (tokens : List (Token K)) : Option (Json K) := do
  let b ← tokens.foldlM Build.step ⟨[], .value, .null⟩
  if b.awaiting = .nothing then some b.result else none

variable [Numeral K]

/-- The value that a text writes, or `none` if the text is not well formed. -/
def read? (text : String) : Option (Json K) :=
  (Token.ofChars? text.toList).bind ofTokens?

/-- The value that a text writes if it can be held as a whole, in canonical form. -/
def readCanonical? (text : String) : Option (Json K) := do
  let value ← read? text
  if value.usable then some value.canonical else none

end NoteBoard.Json
