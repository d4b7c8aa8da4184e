import Mathlib.Data.List.TakeWhile
import NoteBoard.Json.Reader
import NoteBoard.Json.Writer

/-! What the writer writes for texts, words and numbers, and the tokens that are read back in it. -/
namespace NoteBoard.Json

namespace Token

variable {K : Type} [Numeral K]

def scan (s : Scan K) (text : List Char) : Option (Scan K) :=
  text.foldlM step s

theorem scan_cons (s : Scan K) (c : Char) (rest : List Char) :
    scan s (c :: rest) = (step s c).bind fun s' => scan s' rest := rfl

theorem scan_append (s : Scan K) (text rest : List Char) :
    scan s (text ++ rest) = (scan s text).bind fun s' => scan s' rest :=
  List.foldlM_append

/-- A character that ends the numbers and words before it. -/
def isDelimiter (c : Char) : Bool :=
  !inNumber c && !c.isAlphanum

/-- Between units, or at the end of one that the end of the text or a delimiter would finish. The
tokens are last first. -/
structure Scan.Rests (s : Scan K) (tokens : List (Token K)) : Prop where
  finish : finish s = some tokens.reverse
  step : ∀ c, isDelimiter c = true → step s c = stepGap tokens c

/-- The text holds just these tokens, and whatever follows it goes on between units. -/
def Closes (text : List Char) (tokens : List (Token K)) : Prop :=
  ∀ before, scan ⟨.gap, before⟩ text = some ⟨.gap, tokens.reverse ++ before⟩

/-- The text holds just these tokens, if it ends or a delimiter follows. -/
def Reads (text : List Char) (tokens : List (Token K)) : Prop :=
  ∀ before, ∃ s, scan ⟨.gap, before⟩ text = some s ∧ s.Rests (tokens.reverse ++ before)

section Pieces

variable {text rest : List Char} {tokens others : List (Token K)}

theorem Closes.reads (h : Closes text tokens) : Reads text tokens :=
  fun before => ⟨_, h before, rfl, fun _ _ => rfl⟩

theorem Closes.append (h : Closes text tokens) (hRest : Closes rest others) :
    Closes (text ++ rest) (tokens ++ others) := by
  intro before
  rw [scan_append, h, Option.bind_some, hRest, List.reverse_append, List.append_assoc]

theorem Closes.append_reads (h : Closes text tokens) (hRest : Reads rest others) :
    Reads (text ++ rest) (tokens ++ others) := by
  intro before
  obtain ⟨s, hScan, hRests⟩ := hRest (tokens.reverse ++ before)
  refine ⟨s, ?_, ?_⟩
  · rw [scan_append, h, Option.bind_some, hScan]
  · rwa [List.reverse_append, List.append_assoc]

/-- A number or word is finished by the delimiter after it. -/
theorem Reads.append_closes {c : Char} (h : Reads text tokens) (hDelimiter : isDelimiter c = true)
    (hRest : Closes (c :: rest) others) : Closes (text ++ c :: rest) (tokens ++ others) := by
  intro before
  obtain ⟨s, hScan, hRests⟩ := h before
  have hStep : step s c = step ⟨.gap, tokens.reverse ++ before⟩ c := hRests.step c hDelimiter
  rw [scan_append, hScan, Option.bind_some, scan_cons, hStep, ← scan_cons, hRest,
    List.reverse_append, List.append_assoc]

/-- The tokens of a whole text. -/
theorem Reads.ofChars? (h : Reads text tokens) : ofChars? text = some tokens := by
  obtain ⟨s, hScan, hRests⟩ := h []
  rw [List.append_nil] at hRests
  simp only [scan] at hScan
  rw [Token.ofChars?, hScan, Option.bind_some, hRests.finish, List.reverse_reverse]

end Pieces

/-- A blank character holds no token. -/
theorem closes_gap {c : Char} (h : isGap c = true) : Closes (K := K) [c] [] := by
  intro before
  have hStep : step ⟨.gap, before⟩ c = some ⟨.gap, before⟩ := if_pos h
  rw [scan_cons, hStep]
  rfl

theorem toList_newLine (level : Nat) :
    (newLine level).toList = '\n' :: List.replicate (2 * level) ' ' := by
  have hBlanks (count : Nat) :
      ("\n".pushn ' ' count).toList = '\n' :: List.replicate count ' ' := by
    rw [String.pushn_eq_repeat_push]
    induction count with
    | zero => rfl
    | succ count ih =>
        rw [Nat.repeat, String.toList_push, ih, List.replicate_succ', List.cons_append]
  exact hBlanks (2 * level)

/-- A new line holds no token, whatever its indentation. -/
theorem closes_newLine (level : Nat) : Closes (K := K) (newLine level).toList [] := by
  have hBlanks (count : Nat) : Closes (K := K) (List.replicate count ' ') [] := by
    induction count with
    | zero => exact fun _ => rfl
    | succ count ih => exact (closes_gap (by decide)).append ih
  rw [toList_newLine]
  exact (closes_gap (by decide)).append (hBlanks (2 * level))

theorem hexDigit?_hexChar : ∀ d < 16, hexDigit? (hexChar d) = some d := by decide

/-- An escaped character is read back as it was. -/
theorem scan_escape (units : List Nat) (before : List (Token K)) (c : Char) :
    scan ⟨.text units, before⟩ (escape c) = some ⟨.text (c.toNat :: units), before⟩ := by
  unfold escape
  split
  case h_8 hQuote hBackslash _ _ _ _ _ =>
    split
    · next hControl =>
      have hHigh := hexDigit?_hexChar (c.toNat / 16) (by omega)
      have hLow := hexDigit?_hexChar (c.toNat % 16) (by omega)
      have hZero : hexDigit? '0' = some 0 := by decide
      have hValue : 16 * (c.toNat / 16) + c.toNat % 16 = c.toNat := by omega
      simp [scan, step, hHigh, hLow, hZero, hValue]
    · next hPrinted =>
      have hNotQuote : c ≠ '"' := hQuote
      have hNotBackslash : c ≠ '\\' := hBackslash
      simp [scan, step, hNotQuote, hNotBackslash, hPrinted]
  all_goals rfl

theorem scan_escaped (text : List Char) (units : List Nat) (before : List (Token K)) :
    scan ⟨.text units, before⟩ (text.flatMap escape) =
      some ⟨.text ((text.map Char.toNat).reverse ++ units), before⟩ := by
  induction text generalizing units with
  | nil => rfl
  | cons c rest ih =>
      rw [List.flatMap_cons, scan_append, scan_escape, Option.bind_some, ih]
      simp

/-- No character is half a surrogate pair. -/
theorem ofUnits_toNat (text : List Char) : ofUnits (text.map Char.toNat) = some text := by
  have hValid (c : Char) : c.toNat.isValidChar := c.valid
  have hSame (c : Char) : Char.ofNatAux c.toNat (hValid c) = c := Char.ext rfl
  induction text with
  | nil => rfl
  | cons c rest ih =>
      cases rest with
      | nil => exact (dif_pos (hValid c)).trans (congrArg (fun c => some [c]) (hSame c))
      | cons d rest =>
          have hNoHalf : ¬(0xD800 ≤ c.toNat ∧ c.toNat < 0xDC00) := by
            have := hValid c
            unfold Nat.isValidChar at this
            omega
          have hFirst : ofUnits ((c :: d :: rest).map Char.toNat) =
              (ofUnits ((d :: rest).map Char.toNat)).map (Char.ofNatAux c.toNat (hValid c) :: ·) :=
            (if_neg hNoHalf).trans (dif_pos (hValid c))
          rw [hFirst, ih, hSame, Option.map_some]

theorem closes_quoted (text : String) :
    Closes (K := K) (quoted text).toList [.text (some text)] := by
  intro before
  have hOpen (rest : List Char) : scan (K := K) ⟨.gap, before⟩ ('"' :: rest) =
      scan ⟨.text [], before⟩ rest := rfl
  have hClose (units : List Nat) : scan (K := K) ⟨.text units, before⟩ ['"'] =
      some ⟨.gap, ofText units :: before⟩ := rfl
  rw [quoted, String.toList_ofList, List.cons_append, hOpen, scan_append, scan_escaped,
    Option.bind_some, hClose, ofText, List.append_nil, List.reverse_reverse, ofUnits_toNat]
  simp

theorem rests_word {read : List Char} {token : Token K} (h : ofWord read = some token)
    (before : List (Token K)) : Scan.Rests ⟨.word read, before⟩ (token :: before) where
  finish := by simp [finish, h]
  step := fun c hc => by
    have hEnd : c.isAlphanum = false := by simp_all [isDelimiter]
    simp [step, hEnd, h]

theorem reads_null : Reads (K := K) "null".toList [.scalar .null] :=
  fun before => ⟨⟨.word "llun".toList, before⟩, rfl, rests_word rfl before⟩

theorem reads_bool (value : Bool) :
    Reads (K := K) (if value then "true" else "false").toList [.scalar (.bool value)] := by
  cases value with
  | false => exact fun before => ⟨⟨.word "eslaf".toList, before⟩, rfl, rests_word rfl before⟩
  | true => exact fun before => ⟨⟨.word "eurt".toList, before⟩, rfl, rests_word rfl before⟩

/-- A text that starts as a number does and in which nothing ends one. -/
structure IsNumeral (text : List Char) : Prop where
  starts : ∃ c rest, text = c :: rest ∧ (c.isDigit || c == '-') = true
  stays : ∀ c ∈ text, inNumber c = true

theorem scan_inNumber {text : List Char} (h : ∀ c ∈ text, inNumber c = true) (read : List Char)
    (before : List (Token K)) :
    scan ⟨.number read, before⟩ text = some ⟨.number (text.reverse ++ read), before⟩ := by
  induction text generalizing read with
  | nil => rfl
  | cons c rest ih =>
      obtain ⟨hFirst, hRest⟩ := List.forall_mem_cons.1 h
      have hStep : step ⟨.number read, before⟩ c = some ⟨.number (c :: read), before⟩ :=
        if_pos hFirst
      rw [scan_cons, hStep, Option.bind_some, ih hRest]
      simp

theorem scan_numeral {text : List Char} (h : IsNumeral text) (before : List (Token K)) :
    scan ⟨.gap, before⟩ text = some ⟨.number text.reverse, before⟩ := by
  obtain ⟨c, rest, rfl, hFirst⟩ := h.starts
  have hGap : isGap c = false := by
    by_contra hBlank
    simp only [isGap, Bool.not_eq_false, Bool.or_eq_true, beq_iff_eq] at hBlank
    rcases hBlank with ((rfl | rfl) | rfl) | rfl <;> revert hFirst <;> decide
  have hStep : step ⟨.gap, before⟩ c = some ⟨.number [c], before⟩ := by
    show stepGap before c = _
    rw [stepGap.eq_def, hGap, hFirst]
    rfl
  rw [scan_cons, hStep, Option.bind_some, scan_inNumber (List.forall_mem_cons.1 h.stays).2]
  simp

theorem reads_numeral {text : List Char} {token : Token K} (h : IsNumeral text)
    (hToken : ofNumber text.reverse = some token) : Reads text [token] := by
  intro before
  refine ⟨_, scan_numeral h before, by simp [finish, hToken], fun c hc => ?_⟩
  have hEnd : inNumber c = false := by simp_all [isDelimiter]
  simp [step, hEnd, hToken]

theorem isDigit_of_mem_toDigits {n : Nat} : ∀ c ∈ Nat.toDigits 10 n, c.isDigit = true :=
  fun _ hc => Nat.isDigit_of_mem_toDigits (by decide) (by decide) hc

theorem exists_toDigits (n : Nat) : ∃ c rest, Nat.toDigits 10 n = c :: rest ∧ c.isDigit = true := by
  obtain ⟨c, rest, hText⟩ := List.exists_cons_of_ne_nil (Nat.toDigits_ne_nil (n := n) (b := 10))
  exact ⟨c, rest, hText, isDigit_of_mem_toDigits c (hText ▸ List.mem_cons_self)⟩

theorem ofDigits_append_digit (text : List Char) {d : Nat} (hd : d < 10) :
    Numeral.ofDigits (text ++ [d.digitChar]) = 10 * Numeral.ofDigits text + d := by
  have hDigit : ∀ d < 10, d.digitChar.toNat - '0'.toNat = d := by decide
  simp only [Numeral.ofDigits, List.foldl_append, List.foldl_cons, List.foldl_nil, hDigit d hd]

theorem ofDigits_toDigits (n : Nat) : Numeral.ofDigits (Nat.toDigits 10 n) = n := by
  induction n using Nat.strongRecOn with
  | ind n ih =>
      by_cases hn : n < 10
      · rw [Nat.toDigits_of_lt_base hn]
        simpa [Numeral.ofDigits] using ofDigits_append_digit [] hn
      · rw [Nat.toDigits_of_base_le (by decide) (by omega),
          ofDigits_append_digit _ (Nat.mod_lt n (by decide)), ih (n / 10) (by omega)]
        omega

/-- Only zero is written with a zero in front. -/
theorem head?_toDigits {n : Nat} (h : 0 < n) : (Nat.toDigits 10 n).head? ≠ some '0' := by
  induction n using Nat.strongRecOn with
  | ind n ih =>
      by_cases hn : n < 10
      · have hDigit : ∀ d < 10, 0 < d → d.digitChar ≠ '0' := by decide
        rw [Nat.toDigits_of_lt_base hn]
        simpa using hDigit n hn h
      · rw [Nat.toDigits_of_base_le (by decide) (by omega),
          List.head?_append, Option.or_of_isSome (by simp [Nat.toDigits_ne_nil])]
        exact ih (n / 10) (by omega) (by omega)

theorem parts?_toDigits (n : Nat) :
    Literal.parts? (Nat.toDigits 10 n) = some ⟨false, Nat.toDigits 10 n, none, none⟩ := by
  have hWhole : Literal.whole? (Nat.toDigits 10 n) = some (Nat.toDigits 10 n, []) := by
    have hDigits : Literal.digits? (Nat.toDigits 10 n) = some (Nat.toDigits 10 n, []) := by
      have hTake := List.takeWhile_eq_self_iff.2 (isDigit_of_mem_toDigits (n := n))
      have hDrop := List.dropWhile_eq_nil_iff.2 (isDigit_of_mem_toDigits (n := n))
      simp [Literal.digits?, hTake, hDrop]
    have hZero : ¬((Nat.toDigits 10 n).head? = some '0' ∧ (Nat.toDigits 10 n).length ≠ 1) := by
      rintro ⟨hHead, hLength⟩
      rcases Nat.eq_zero_or_pos n with rfl | hn
      · exact hLength rfl
      · exact head?_toDigits hn hHead
    simp [Literal.whole?, hDigits, hZero]
  obtain ⟨c, rest, hText, hDigit⟩ := exists_toDigits n
  have hMinus : c ≠ '-' := by
    rintro rfl
    exact absurd hDigit (by decide)
  rw [hText] at hWhole ⊢
  simp [Literal.parts?, hMinus, hWhole]

theorem isNumeral_of_digits {text : List Char} (h : text ≠ [])
    (hDigits : ∀ c ∈ text, c.isDigit = true) : IsNumeral text where
  starts := by
    obtain ⟨c, rest, rfl⟩ := List.exists_cons_of_ne_nil h
    exact ⟨c, rest, rfl, by simp [hDigits c List.mem_cons_self]⟩
  stays := fun c hc => by simp [inNumber, hDigits c hc]

theorem isNumeral_toDigits (n : Nat) : IsNumeral (Nat.toDigits 10 n) :=
  isNumeral_of_digits Nat.toDigits_ne_nil isDigit_of_mem_toDigits

/-- Whole numbers that fit in 64 bits are read back as they are. -/
theorem reads_nat {n : Nat} (h : n ≤ Literal.significandLimit) :
    Reads (K := K) (toString (n : Int)).toList [.scalar (.integer n)] := by
  have hText : (toString (n : Int)).toList = Nat.toDigits 10 n := by
    simp [toString, Int.repr, Nat.repr]
  have hToken : ofNumber (K := K) (Nat.toDigits 10 n).reverse = some (.scalar (.integer n)) := by
    simp [ofNumber, parts?_toDigits, Literal.value, ofDigits_toDigits, h]
  rw [hText]
  exact reads_numeral (isNumeral_toDigits n) hToken

theorem IsNumeral.append {text rest : List Char} (h : IsNumeral text)
    (hRest : ∀ c ∈ rest, inNumber c = true) : IsNumeral (text ++ rest) where
  starts := by
    obtain ⟨c, others, rfl, hFirst⟩ := h.starts
    exact ⟨c, others ++ rest, rfl, hFirst⟩
  stays := List.forall_mem_append.2 ⟨h.stays, hRest⟩

theorem isNumeral_pointed {places : Nat} {text : List Char} (h : places < text.length)
    (hDigits : ∀ c ∈ text, c.isDigit = true) : IsNumeral (Numeral.pointed places text) := by
  have hWhole : text.take (text.length - places) ≠ [] := by
    rw [Ne, List.take_eq_nil_iff]
    rintro (hZero | rfl)
    · omega
    · exact Nat.not_lt_zero _ h
  have hFraction : ∀ c ∈ '.' :: text.drop (text.length - places), inNumber c = true := by
    refine List.forall_mem_cons.2 ⟨by decide, fun c hc => ?_⟩
    simp [inNumber, hDigits c (List.mem_of_mem_drop hc)]
  have hStart := isNumeral_of_digits hWhole fun c hc => hDigits c (List.mem_of_mem_take hc)
  exact hStart.append hFraction

theorem isNumeral_positional (d : Decimal) : IsNumeral (Numeral.positional d) := by
  unfold Numeral.positional
  split
  · exact isNumeral_toDigits _
  · next k _ =>
    have hDigits : ∀ c ∈ Numeral.digits (k + 2) d.digits, c.isDigit = true := by
      intro c hc
      rcases List.mem_append.1 hc with hZero | hc
      · rw [List.eq_of_mem_replicate hZero]
        decide
      · exact isDigit_of_mem_toDigits c hc
    refine isNumeral_pointed ?_ hDigits
    simp only [Numeral.digits, List.length_append, List.length_replicate]
    omega

theorem isNumeral_scientific (d : Decimal) : IsNumeral (Numeral.scientific d) := by
  have hLength := Nat.length_toDigits_pos (n := d.digits) (b := 10)
  have hMantissa : IsNumeral (if (Nat.toDigits 10 d.digits).length = 1 then Nat.toDigits 10 d.digits
      else Numeral.pointed ((Nat.toDigits 10 d.digits).length - 1) (Nat.toDigits 10 d.digits)) := by
    split
    · exact isNumeral_toDigits _
    · exact isNumeral_pointed (by omega) isDigit_of_mem_toDigits
  refine hMantissa.append (List.forall_mem_cons.2 ⟨by decide, List.forall_mem_cons.2 ⟨?_, ?_⟩⟩)
  · split <;> decide
  · exact (isNumeral_toDigits _).stays

theorem isNumeral_documentForm (d : Decimal) : IsNumeral (Numeral.documentForm d) := by
  have hPlaces : ∀ c ∈ ['.', '0'], inNumber c = true :=
    List.forall_mem_cons.2 ⟨by decide, List.forall_mem_singleton.2 (by decide)⟩
  simp only [Numeral.documentForm]
  split_ifs
  · exact ⟨⟨'0', _, rfl, by decide⟩, List.forall_mem_cons.2 ⟨by decide, hPlaces⟩⟩
  · exact (isNumeral_positional d).append hPlaces
  · exact isNumeral_positional d
  · exact isNumeral_scientific d

theorem isNumeral_documentText {x : K} {text : String} (h : Numeral.documentText? x = some text) :
    IsNumeral text.toList := by
  unfold Numeral.documentText? at h
  split at h
  · have hForm := isNumeral_documentForm (Numeral.shortest .toEven x)
    rw [← Option.some_inj.1 h, String.toList_ofList, Numeral.sign]
    split
    · exact ⟨⟨'-', _, rfl, by decide⟩, List.forall_mem_cons.2 ⟨by decide, hForm.stays⟩⟩
    · exact hForm
  · cases h

end Token

open Token

variable {K : Type} [Numeral K]

/-- A number that is read back from the text that documents hold for it. -/
def ReadsBack (x : K) : Prop :=
  (Numeral.documentText? x).bind read? = some (.real x)

instance [DecidableEq K] (x : K) : Decidable (ReadsBack x) :=
  match h : (Numeral.documentText? x).bind read? with
  | some (.real y) => decidable_of_iff (y = x) (by simp [ReadsBack, h])
  | none | some .null | some (.bool _) | some (.integer _) | some (.text _) | some (.array _)
  | some (.object _) | some .unusable => isFalse (by simp [ReadsBack, h])

theorem ReadsBack.reads {x : K} (h : ReadsBack x) :
    Reads (compact (.real x)).toList [.scalar (.real x)] := by
  obtain ⟨text, hText, hRead⟩ := Option.bind_eq_some_iff.1 h
  have hNumeral := isNumeral_documentText hText
  have hScan : ofChars? (K := K) text.toList = (ofNumber text.toList.reverse).map fun t => [t] := by
    have := scan_numeral (K := K) hNumeral []
    rw [scan] at this
    rw [ofChars?, this]
    rfl
  -- The only token of a number is a scalar, which is all that its text writes.
  have hToken : ofNumber text.toList.reverse = some (.scalar (.real x)) := by
    rw [read?, hScan] at hRead
    unfold ofNumber at hRead ⊢
    cases hParts : Literal.parts? text.toList.reverse.reverse with
    | none =>
        rw [hParts] at hRead
        cases hRead
    | some parts =>
        rw [hParts] at hRead
        exact congrArg (some ∘ Token.scalar) (Option.some_inj.1 hRead)
  rw [compact, hText]
  exact reads_numeral hNumeral hToken

end NoteBoard.Json
