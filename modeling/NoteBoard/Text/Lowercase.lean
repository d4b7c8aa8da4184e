import NoteBoard.Text.CaseTable

/-!
The small form of a text in all scripts. Two letters do not map to a single fixed one: the
dotted capital I becomes two characters, and a capital sigma at the end of a word takes the
final form.
-/

namespace NoteBoard.Text

/-- Whether a code lies in one of the ranges. -/
def inRanges (ranges : List (Nat × Nat)) (n : Nat) : Bool :=
  ranges.any fun (first, last) => first ≤ n && n ≤ last

/-- Whether a character has case and counts when the neighbours of a letter are looked at. -/
def isCased (c : Char) : Bool :=
  if c.toNat < 128 then c.isAlpha else inRanges casedRanges c.toNat

/-- Whether a character is passed over when the neighbours of a letter are looked at. -/
def isPassedOver (c : Char) : Bool :=
  inRanges passedRanges c.toNat

/-- The small letter of a single character, without regard to its neighbours. -/
def lowerChar (c : Char) : Char :=
  if c.toNat < 128 then c.toLower
  else
    let run := lowerRuns.find? fun (first, last, step, _) =>
      first ≤ c.toNat && c.toNat ≤ last && (c.toNat - first) % step == 0
    match run with
    | some (_, _, _, distance) => Char.ofNat (c.toNat + distance).toNat
    | none => c

/-- Whether the nearest character that is not passed over has case. -/
def nextIsCased (rest : List Char) : Bool :=
  (rest.dropWhile isPassedOver).head?.any isCased

/-- The small form of what follows the characters `before`, which are given nearest first. -/
def lowerAfter (before : List Char) : List Char → List Char
  | [] => []
  | c :: rest =>
    let small :=
      if c = 'Σ' then [if nextIsCased before && !nextIsCased rest then 'ς' else 'σ']
      else if c = 'İ' then ['i', '\u0307']
      else [lowerChar c]
    small ++ lowerAfter (c :: before) rest

/-- The small form of a text. -/
def lowercase (text : List Char) : List Char :=
  lowerAfter [] text

end NoteBoard.Text
