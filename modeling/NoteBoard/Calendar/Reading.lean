import NoteBoard.Calendar.Instant
import NoteBoard.Number.Numeral
import NoteBoard.Text.Blank

/-!
Reading dates and time stamps. Field values take dates in a strict form, time stamps of notes in
several, and dates typed by people by their first ten bytes.
-/

namespace NoteBoard.Calendar

open Text (isBlank)

/-- Takes something off the front of a text, or fails. -/
abbrev Scanner := StateT (List Char) Option

namespace Scanner

/-- Passes over white space. -/
def blanks : Scanner Unit :=
  modify (·.dropWhile isBlank)

/-- Takes one character of a class. -/
def one (p : Char → Bool) : Scanner Char := do
  match ← get with
  | c :: rest => if p c then set rest; return c else failure
  | [] => failure

/-- Takes a character. -/
def char (c : Char) : Scanner Unit :=
  discard (one (· == c))

/-- Takes a number of one digit up to a greatest count. -/
def number (most : Nat) : Scanner Nat := do
  let text ← get
  let ds := (text.take most).takeWhile Char.isDigit
  if ds.isEmpty then failure
  set (text.drop ds.length)
  return Numeral.ofDigits ds

/-- Takes a number with an exact count of digits. -/
def fixed (count : Nat) : Scanner Nat := do
  let text ← get
  let ds := text.take count
  if ds.length = count ∧ ds.all Char.isDigit then
    set (text.drop count)
    return Numeral.ofDigits ds
  else failure

/-- Takes a year: up to four digits, or a sign and any count of digits. -/
def year : Scanner Int := do
  let text ← get
  match text with
  | '-' :: rest => set rest; return -(← number rest.length : Int)
  | '+' :: rest => set rest; return (← number rest.length : Int)
  | _ => return (← number 4 : Int)

/-- Takes a fraction of a second if there is one: a point and digits, of which nine count. -/
def fraction : Scanner Nat := do
  match ← get with
  | '.' :: rest =>
    let ds := rest.takeWhile Char.isDigit
    if ds.isEmpty then failure
    set (rest.drop ds.length)
    let nine := ds.take 9
    return Numeral.ofDigits nine * tenTo (9 - nine.length)
  | _ => return 0

/-- The end of the text. -/
def done : Scanner Unit := do
  if (← get).isEmpty then return () else failure

/-- Reads a whole text. -/
def run? {α : Type} (s : Scanner α) (text : List Char) : Option α :=
  (s text).map Prod.fst

/-- Takes a date; `gap` stands before each hyphen. -/
def date (gap : Scanner Unit) : Scanner Date := do
  blanks
  let y ← year
  gap; char '-'; blanks
  let m ← number 2
  gap; char '-'; blanks
  let d ← number 2
  Date.ofCivil? y m d

/-- The instant of a clock reading. Second 60 is a leap second. -/
def instantOf (date : Date) (hour minute second nano : Nat) : Option Instant :=
  if hour < 24 ∧ minute < 60 ∧ second ≤ 60 then
    let (second, nano) := if second = 60 then (59, nano + 1000000000) else (second, nano)
    Instant.ofParts? date (3600 * hour + 60 * minute + second) nano
  else none

/-- Takes a clock reading with seconds; `gap` stands before each colon. -/
def clock (date : Date) (gap : Scanner Unit) : Scanner Instant := do
  blanks
  let hour ← number 2
  gap; char ':'; blanks
  let minute ← number 2
  gap; char ':'; blanks
  let second ← number 2
  instantOf date hour minute second (← fraction)

/-- Takes an offset from universal time in minutes: `Z`, or a sign, hours and minutes. -/
def offset : Scanner Int := do
  let c ← one fun c => c == 'Z' || c == 'z' || c == '+' || c == '-' || c == '\u2212'
  if c = 'Z' ∨ c = 'z' then return 0
  let hours ← fixed 2
  char ':'
  let minutes ← fixed 2
  if minutes < 60 ∧ hours < 24 then
    let size : Int := 60 * hours + minutes
    return if c = '+' then size else -size
  else failure

end Scanner

open Scanner

/-- The strict form of a date in field values; white space may stand between its parts. -/
def fieldDate? (text : String) : Option Date :=
  run? (do let d ← date blanks; blanks; done; return d) text.toList

/-- The strict form of an instant in field values. -/
def fieldInstant? (text : String) : Option Instant :=
  run? (do
    let d ← date blanks
    blanks; char 'T'
    let t ← clock d blanks
    blanks; done
    return t) text.toList

/-- The first characters of a text that fill exactly so many bytes. -/
def firstBytes? : Nat → List Char → Option (List Char)
  | 0, _ => some []
  | _ + 1, [] => none
  | n + 1, c :: rest =>
    if c.utf8Size ≤ n + 1 then (firstBytes? (n + 1 - c.utf8Size) rest).map (c :: ·) else none
termination_by n => n
decreasing_by have := c.utf8Size_pos; omega

/-- A date typed by a person: the first ten bytes of the trimmed text if a character ends there,
else all of it. -/
def typedDate? (text : String) : Option Date :=
  let trimmed := Text.strip isBlank text.toList
  let part := (firstBytes? 10 trimmed).getD trimmed
  run? (do let d ← date (pure ()); done; return d) part

/-- A time stamp with an offset, in universal time. -/
def universalStamp : Scanner Instant := do
  let y ← fixed 4
  char '-'
  let m ← fixed 2
  char '-'
  let d ← Date.ofCivil? y m (← fixed 2)
  discard (one fun c => c == 'T' || c == 't' || c == ' ')
  let hour ← fixed 2
  char ':'
  let minute ← fixed 2
  char ':'
  let t ← instantOf d hour minute (← fixed 2) (← fraction)
  let minutes ← offset
  done
  t.shiftSeconds? (-60 * minutes)

/-- A local time stamp: with seconds after `T` or white space, or without seconds after `T`. -/
def localStamps : List (Scanner Instant) := [
  (do
    let d ← date (pure ())
    char 'T'
    let t ← clock d (pure ())
    done; return t),
  (do
    let d ← date (pure ())
    blanks
    let t ← clock d (pure ())
    done; return t),
  (do
    let d ← date (pure ())
    char 'T'; blanks
    let hour ← number 2
    char ':'; blanks
    let minute ← number 2
    done; instantOf d hour minute 0 0)]

/-- The whole number of a text of digits with an optional minus, within 64 bits. -/
def wholeNumber? (text : List Char) : Option Int := do
  let (negative, ds) := match text with
    | '-' :: ds => (true, ds)
    | ds => (false, ds)
  if ds.isEmpty || !ds.all Char.isDigit then none
  else
    let n : Int := if negative then -(Numeral.ofDigits ds : Int) else (Numeral.ofDigits ds : Int)
    if fitsSigned64 n then some n else none

/-- The wall-clock time of a time stamp: milliseconds since 1970 or a stamp with an offset, both in
the time zone of the host; a local stamp; or a bare date of ten bytes, which means its start. -/
def stamp? [TimeZone] (text : String) : Option Instant :=
  let trimmed := Text.strip isBlank text.toList
  match wholeNumber? trimmed with
  | some millis => (Instant.ofEpochMillis? millis).map TimeZone.wallClock
  | none =>
    ((run? universalStamp trimmed).map TimeZone.wallClock).or
      ((localStamps.findSome? fun form => run? form trimmed).or
        (if (String.ofList trimmed).utf8ByteSize = 10 then
          (typedDate? (String.ofList trimmed)).map Instant.startOf
        else none))

end NoteBoard.Calendar
