import NoteBoard.Json.Basic
import NoteBoard.Number.Numeral

/-!
Writing JSON, on one line or with two spaces of indentation for each level.
-/

namespace NoteBoard.Json

/-- A hexadecimal digit. -/
def hexChar (n : Nat) : Char :=
  (Nat.toDigits 16 n).headD '0'

/-- A character inside a written text: quotes, backslashes and control characters are escaped. -/
def escape (c : Char) : List Char :=
  match c with
  | '"' => ['\\', '"']
  | '\\' => ['\\', '\\']
  | '\n' => ['\\', 'n']
  | '\r' => ['\\', 'r']
  | '\t' => ['\\', 't']
  | '\u0008' => ['\\', 'b']
  | '\u000c' => ['\\', 'f']
  | _ =>
    if c.toNat < 0x20 then
      ['\\', 'u', '0', '0', hexChar (c.toNat / 16), hexChar (c.toNat % 16)]
    else [c]

/-- A text in quotes. -/
def quoted (text : String) : String :=
  String.ofList ('"' :: text.toList.flatMap escape ++ ['"'])

variable {K : Type} [Numeral K]

mutual

/-- On one line, without blanks. -/
def compact : Json K → String
  | .null => "null"
  | .bool value => if value then "true" else "false"
  | .integer value => toString value
  | .real value => (Numeral.documentText? value).getD "null"
  | .text value => quoted value
  | .array items => "[" ++ compactItems items ++ "]"
  | .object members => "\x7b" ++ compactMembers members ++ "\x7d"
  | .unusable => "null"

def compactItems : List (Json K) → String
  | [] => ""
  | [item] => item.compact
  | item :: rest => item.compact ++ "," ++ compactItems rest

def compactMembers : List (String × Json K) → String
  | [] => ""
  | [(name, value)] => quoted name ++ ":" ++ value.compact
  | (name, value) :: rest =>
    quoted name ++ ":" ++ value.compact ++ "," ++ compactMembers rest

end

/-- A new line at a level of indentation. -/
def newLine (level : Nat) : String :=
  "\n".pushn ' ' (2 * level)

mutual

/-- With every item and member on a line of its own; the value itself stands at the given
level. -/
def prettyAt (level : Nat) : Json K → String
  | .array [] => "[]"
  | .object [] => "\x7b\x7d"
  | .array items => "[" ++ prettyItems (level + 1) items ++ newLine level ++ "]"
  | .object members => "\x7b" ++ prettyMembers (level + 1) members ++ newLine level ++ "\x7d"
  | value => value.compact

def prettyItems (level : Nat) : List (Json K) → String
  | [] => ""
  | [item] => newLine level ++ item.prettyAt level
  | item :: rest => newLine level ++ item.prettyAt level ++ "," ++ prettyItems level rest

def prettyMembers (level : Nat) : List (String × Json K) → String
  | [] => ""
  | [(name, value)] => newLine level ++ quoted name ++ ": " ++ value.prettyAt level
  | (name, value) :: rest =>
    newLine level ++ quoted name ++ ": " ++ value.prettyAt level ++ "," ++
      prettyMembers level rest

end

/-- With every item and member on a line of its own. -/
def pretty (value : Json K) : String :=
  value.prettyAt 0

end NoteBoard.Json
