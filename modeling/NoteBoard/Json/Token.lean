import NoteBoard.Json.Literal

/-!
JSON text as a list of tokens. The text is read in one pass, a character at a time, so that what
a text means is a fold over its characters.
-/

namespace NoteBoard.Json

/-- A token. A text token is `none` if it is well formed but holds half a surrogate pair. -/
inductive Token (K : Type) where
  | openArray
  | closeArray
  | openObject
  | closeObject
  | colon
  | comma
  | scalar (value : Json K)
  | text (value : Option String)

namespace Token

variable {K : Type} [Numeral K]

/-- The unit that a text is in the middle of. A text is kept as code units, last first, because
an escape writes half a surrogate pair. -/
inductive Within where
  | gap
  | number (read : List Char)
  | word (read : List Char)
  | text (units : List Nat)
  | escape (units : List Nat)
  | hex (units : List Nat) (left value : Nat)

/-- A reader between two characters: the unit it is in, and the tokens before that, last first. -/
structure Scan (K : Type) where
  within : Within
  tokens : List (Token K)

/-- The four blanks between tokens. -/
def isGap (c : Char) : Bool :=
  c == ' ' || c == '\n' || c == '\t' || c == '\r'

/-- Whether a character can continue a number. -/
def inNumber (c : Char) : Bool :=
  c.isDigit || c == '-' || c == '+' || c == '.' || c == 'e' || c == 'E'

/-- The characters of code units where escapes may have written surrogate pairs in two halves. -/
def ofUnits : List Nat → Option (List Char)
  | [] => some []
  | [u] => if h : u.isValidChar then some [Char.ofNatAux u h] else none
  | u :: v :: rest =>
    if 0xD800 ≤ u ∧ u < 0xDC00 then
      if 0xDC00 ≤ v ∧ v < 0xE000 then
        (ofUnits rest).map (Char.ofNat (0x10000 + (u - 0xD800) * 0x400 + (v - 0xDC00)) :: ·)
      else none
    else if h : u.isValidChar then (ofUnits (v :: rest)).map (Char.ofNatAux u h :: ·)
    else none

/-- The token of a finished text. -/
def ofText (units : List Nat) : Token K :=
  .text ((ofUnits units.reverse).map String.ofList)

/-- The character that a one-letter escape stands for. -/
def escaped? : Char → Option Char
  | '"' => some '"'
  | '\\' => some '\\'
  | '/' => some '/'
  | 'b' => some '\u0008'
  | 'f' => some '\u000c'
  | 'n' => some '\n'
  | 'r' => some '\r'
  | 't' => some '\t'
  | _ => none

/-- The value of a hexadecimal digit. -/
def hexDigit? (c : Char) : Option Nat :=
  if c.isDigit then some (c.toNat - '0'.toNat)
  else if 'a' ≤ c ∧ c ≤ 'f' then some (c.toNat - 'a'.toNat + 10)
  else if 'A' ≤ c ∧ c ≤ 'F' then some (c.toNat - 'A'.toNat + 10)
  else none

/-- A character between two units. -/
def stepGap (tokens : List (Token K)) (c : Char) : Option (Scan K) :=
  if isGap c then some ⟨.gap, tokens⟩
  else if c.isDigit || c == '-' then some ⟨.number [c], tokens⟩
  else if c.isLower then some ⟨.word [c], tokens⟩
  else match c with
    | '"' => some ⟨.text [], tokens⟩
    | '[' => some ⟨.gap, .openArray :: tokens⟩
    | ']' => some ⟨.gap, .closeArray :: tokens⟩
    | '\x7b' => some ⟨.gap, .openObject :: tokens⟩
    | '\x7d' => some ⟨.gap, .closeObject :: tokens⟩
    | ':' => some ⟨.gap, .colon :: tokens⟩
    | ',' => some ⟨.gap, .comma :: tokens⟩
    | _ => none

/-- The token of a finished number. -/
def ofNumber (read : List Char) : Option (Token K) :=
  (Literal.parts? read.reverse).map fun p => .scalar (Literal.value p)

/-- The token of a finished word. -/
def ofWord (read : List Char) : Option (Token K) :=
  match String.ofList read.reverse with
  | "null" => some (.scalar .null)
  | "true" => some (.scalar (.bool true))
  | "false" => some (.scalar (.bool false))
  | _ => none

/-- One character further; `none` where the text is not well formed. -/
def step (s : Scan K) (c : Char) : Option (Scan K) :=
  match s.within with
  | .gap => stepGap s.tokens c
  | .number read =>
    if inNumber c then some ⟨.number (c :: read), s.tokens⟩
    else (ofNumber read).bind fun token => stepGap (token :: s.tokens) c
  | .word read =>
    if c.isAlphanum then some ⟨.word (c :: read), s.tokens⟩
    else (ofWord read).bind fun token => stepGap (token :: s.tokens) c
  | .text units =>
    if c = '"' then some ⟨.gap, ofText units :: s.tokens⟩
    else if c = '\\' then some ⟨.escape units, s.tokens⟩
    else if c.toNat < 0x20 then none
    else some ⟨.text (c.toNat :: units), s.tokens⟩
  | .escape units =>
    if c = 'u' then some ⟨.hex units 4 0, s.tokens⟩
    else (escaped? c).map fun e => ⟨.text (e.toNat :: units), s.tokens⟩
  | .hex units left value =>
    (hexDigit? c).map fun d =>
      let value := 16 * value + d
      if left ≤ 1 then ⟨.text (value :: units), s.tokens⟩
      else ⟨.hex units (left - 1) value, s.tokens⟩

/-- The tokens at the end of the text. -/
def finish (s : Scan K) : Option (List (Token K)) :=
  match s.within with
  | .gap => some s.tokens.reverse
  | .number read => (ofNumber read).map fun token => (token :: s.tokens).reverse
  | .word read => (ofWord read).map fun token => (token :: s.tokens).reverse
  | _ => none

/-- The tokens of a text. -/
def ofChars? (text : List Char) : Option (List (Token K)) :=
  (text.foldlM step ⟨.gap, []⟩).bind finish

end Token
end NoteBoard.Json
