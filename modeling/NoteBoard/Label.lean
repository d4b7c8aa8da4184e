import NoteBoard.Text.Blank

/-!
Labels for new widgets, which are never one that is in use. What labels look like is left to a
source of labels; the one that is at hand numbers them, in the shape of identifiers that are
unique everywhere.
-/

namespace NoteBoard

/-- A supply of labels: how many numbers have been gone through. -/
structure Labels where
  issued : Nat
deriving DecidableEq

/-- A source of labels. Whatever ids are in use, the next label is another one and not blank. -/
class LabelSource where
  next : Labels → List String → String × Labels
  next_notMem : ∀ (s : Labels) (used : List String), (next s used).1 ∉ used
  trim_next_ne : ∀ (s : Labels) (used : List String), Text.trim (next s used).1 ≠ ""

/-- The label with a number: eight, four, four, four and twelve hexadecimal digits, of which the
last group counts. -/
def label (n : Nat) : String :=
  let text := Nat.toDigits 16 n
  "00000000-0000-4000-8000-" ++ String.ofList (List.replicate (12 - text.length) '0' ++ text)

/-- The number that hexadecimal digits denote. -/
def ofHex (text : List Char) : Nat :=
  text.foldl (fun n c => 16 * n + if c.isDigit then c.toNat - 48 else c.toNat - 87) 0

theorem ofHex_append_digit (text : List Char) {d : Nat} (hd : d < 16) :
    ofHex (text ++ [d.digitChar]) = 16 * ofHex text + d := by
  have hDigit : ∀ d < 16, (if d.digitChar.isDigit then d.digitChar.toNat - 48
      else d.digitChar.toNat - 87) = d := by decide
  simp only [ofHex, List.foldl_append, List.foldl_cons, List.foldl_nil, hDigit d hd]

theorem ofHex_toDigits (n : Nat) : ofHex (Nat.toDigits 16 n) = n := by
  induction n using Nat.strongRecOn with
  | ind n ih =>
      by_cases hn : n < 16
      · rw [Nat.toDigits_of_lt_base hn]
        simpa [ofHex] using ofHex_append_digit [] hn
      · rw [Nat.toDigits_of_base_le (by decide) (by omega),
          ofHex_append_digit _ (Nat.mod_lt n (by decide)), ih (n / 16) (by omega)]
        omega

theorem ofHex_zeros (count : Nat) (text : List Char) :
    ofHex (List.replicate count '0' ++ text) = ofHex text := by
  induction count with
  | zero => rfl
  | succ count ih => simpa [ofHex, List.replicate_succ] using ih

/-- Numbers have different labels. -/
theorem label_injective {m n : Nat} (h : label m = label n) : m = n := by
  have hText := String.ofList_inj.1 ((String.append_right_inj _).1 h)
  have hNumber := congrArg ofHex hText
  rwa [ofHex_zeros, ofHex_zeros, ofHex_toDigits, ofHex_toDigits] at hNumber

theorem trim_label_ne (n : Nat) : Text.trim (label n) ≠ "" := by
  have hFirst : '0' ∈ (label n).toList := by
    unfold label
    rw [String.toList_append]
    apply List.mem_append_left
    simp
  have hDigit : Text.isBlank '0' = false := by decide
  exact Text.trim_ne_of_mem hFirst hDigit

namespace Labels

/-- The first number from `n` on whose label is not in use, if the first few all are. -/
def firstFree (used : List String) : Nat → Nat → Nat
  | 0, n => n
  | tries + 1, n => if label n ∈ used then firstFree used tries (n + 1) else n

theorem le_firstFree (used : List String) (tries n : Nat) : n ≤ firstFree used tries n := by
  induction tries generalizing n with
  | zero => exact Nat.le_refl n
  | succ tries ih =>
      simp only [firstFree]
      split
      · exact Nat.le_of_succ_le (ih (n + 1))
      · exact Nat.le_refl n

/-- The label of a smaller number does not matter. -/
theorem firstFree_erase (used : List String) (tries : Nat) {m n : Nat} (h : m < n) :
    firstFree (used.erase (label m)) tries n = firstFree used tries n := by
  induction tries generalizing n with
  | zero => rfl
  | succ tries ih =>
      have hOther : label n ≠ label m := fun e => Nat.ne_of_gt h (label_injective e)
      simp only [firstFree, List.mem_erase_of_ne hOther, ih (Nat.lt_succ_of_lt h)]

/-- As many tries as there are ids in use find a label that is not. -/
theorem label_firstFree_notMem (used : List String) (tries n : Nat) (h : used.length ≤ tries) :
    label (firstFree used tries n) ∉ used := by
  induction tries generalizing used n with
  | zero => simp [List.eq_nil_of_length_eq_zero (Nat.le_zero.1 h)]
  | succ tries ih =>
      simp only [firstFree]
      split
      · next hUsed =>
        have hLength : (used.erase (label n)).length ≤ tries := by
          rw [List.length_erase_of_mem hUsed]; omega
        have hFree := ih _ (n + 1) hLength
        rw [firstFree_erase used tries (Nat.lt_succ_self n)] at hFree
        have hLater := le_firstFree used tries (n + 1)
        have hOther : label (firstFree used tries (n + 1)) ≠ label n := fun e => by
          have := label_injective e
          omega
        rwa [List.mem_erase_of_ne hOther] at hFree
      · next hFree => exact hFree

end Labels

/-- Labels by number. One of the labels after the numbers gone through is free, since there are
fewer in use. -/
instance (priority := low) numberedLabels : LabelSource where
  next s used :=
    let n := Labels.firstFree used used.length (s.issued + 1)
    (label n, ⟨n⟩)
  next_notMem s used :=
    Labels.label_firstFree_notMem used used.length (s.issued + 1) (Nat.le_refl _)
  trim_next_ne _ _ := trim_label_ne _

namespace Labels

/-- A label that is not in use. -/
def fresh [LabelSource] (s : Labels) (used : List String) : String × Labels :=
  LabelSource.next s used

/-- Several different labels that are not in use. -/
def freshMany [LabelSource] (s : Labels) (used : List String) : Nat → List String × Labels
  | 0 => ([], s)
  | count + 1 =>
      let (id, s) := s.fresh used
      let (ids, s) := s.freshMany (id :: used) count
      (id :: ids, s)

end Labels
end NoteBoard
