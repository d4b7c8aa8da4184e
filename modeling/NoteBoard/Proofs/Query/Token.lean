import Mathlib.Tactic.SplitIfs
import NoteBoard.Query.Token

/-! What the reader of queries makes of a text: how texts that are read on their own are read side
by side, and what the tags in it look like. -/
namespace NoteBoard.Query
namespace Token

/-- The reader after a text. -/
def scan (s : Scan) (text : List Char) : Except Error Scan :=
  text.foldlM step s

@[simp] theorem scan_nil (s : Scan) : scan s [] = .ok s := rfl

theorem scan_cons {s s' : Scan} {c : Char} (h : step s c = .ok s') (rest : List Char) :
    scan s (c :: rest) = scan s' rest := by
  rw [scan, List.foldlM_cons, h]
  rfl

theorem scan_append {s s' : Scan} {text : List Char} (h : scan s text = .ok s')
    (rest : List Char) : scan s (text ++ rest) = scan s' rest := by
  rw [scan] at h
  rw [scan, List.foldlM_append, h]
  rfl

/-- A reader that has read some tokens, the last of them perhaps still open: with the end of the
text, or a character that ends words, it is closed. -/
structure Rests (s : Scan) (tokens : List Token) : Prop where
  finish : Token.finish s = .ok tokens.reverse
  step : ∀ c, endsWord c = true → Token.step s c = .ok (stepGap tokens c)

theorem rests_gap (tokens : List Token) : Rests ⟨.gap, tokens⟩ tokens where
  finish := rfl
  step _ _ := rfl

theorem rests_word {read : List Char} {token : Token} (h : ofWord read.reverse = .ok token)
    (tokens : List Token) : Rests ⟨.word read, tokens⟩ (token :: tokens) where
  finish := by
    simp only [Token.finish, h]
    rfl
  step c hc := by
    simp only [Token.step, hc, if_true, h]
    rfl

/-- A text that is read as certain tokens, whatever was read before. -/
def Reads (text : List Char) (read : List Token) : Prop :=
  ∀ tokens, ∃ s, scan ⟨.gap, tokens⟩ text = .ok s ∧ Rests s (read.reverse ++ tokens)

theorem Reads.ofChars {text : List Char} {read : List Token} (h : Reads text read) :
    ofChars text = .ok read := by
  obtain ⟨s, hScan, hRests⟩ := h []
  rw [scan] at hScan
  rw [Token.ofChars, hScan]
  have hFinish := hRests.finish
  rw [List.append_nil, List.reverse_reverse] at hFinish
  exact hFinish

theorem reads_nil : Reads [] [] :=
  fun tokens => ⟨_, scan_nil _, rests_gap tokens⟩

/-- Texts are read one after the other if there is a space between them. -/
theorem Reads.append_space {text text' : List Char} {read read' : List Token}
    (h : Reads text read) (h' : Reads text' read') :
    Reads (text ++ ' ' :: text') (read ++ read') := by
  intro tokens
  obtain ⟨s, hScan, hRests⟩ := h tokens
  obtain ⟨s', hScan', hRests'⟩ := h' (read.reverse ++ tokens)
  have hSpace : step s ' ' = .ok ⟨.gap, read.reverse ++ tokens⟩ := hRests.step ' ' (by decide)
  refine ⟨s', ?_, ?_⟩
  · rw [scan_append hScan, scan_cons hSpace, hScan']
  · rwa [List.reverse_append, List.append_assoc]

/-- Parentheses need no space around what they enclose. -/
theorem Reads.parenthesized {text : List Char} {read : List Token} (h : Reads text read) :
    Reads ('(' :: text ++ [')']) (.opening :: read ++ [.closing]) := by
  intro tokens
  obtain ⟨s, hScan, hRests⟩ := h (.opening :: tokens)
  have hOpening : step ⟨.gap, tokens⟩ '(' = .ok ⟨.gap, .opening :: tokens⟩ := rfl
  have hClosing : step s ')' = .ok ⟨.gap, .closing :: (read.reverse ++ .opening :: tokens)⟩ :=
    hRests.step ')' (by decide)
  refine ⟨⟨.gap, .closing :: (read.reverse ++ .opening :: tokens)⟩, ?_, ?_⟩
  · rw [List.cons_append, scan_cons hOpening, scan_append hScan, scan_cons hClosing, scan_nil]
  · have hTokens : (opening :: read ++ [closing]).reverse ++ tokens =
        closing :: (read.reverse ++ opening :: tokens) := by simp
    rw [hTokens]
    exact rests_gap _

theorem stepGap_of_not_endsWord {c : Char} (h : endsWord c = false) (tokens : List Token) :
    stepGap tokens c = ⟨.word [c], tokens⟩ := by
  simp only [endsWord, Bool.or_eq_false_iff, beq_eq_false_iff_ne] at h
  obtain ⟨⟨⟨hBlank, hOpening⟩, hClosing⟩, hQuote⟩ := h
  simp [stepGap, hBlank, hOpening, hClosing, hQuote]

theorem scan_word {text : List Char} (h : ∀ c ∈ text, endsWord c = false) (read : List Char)
    (tokens : List Token) :
    scan ⟨.word read, tokens⟩ text = .ok ⟨.word (text.reverse ++ read), tokens⟩ := by
  induction text generalizing read with
  | nil => rfl
  | cons c rest ih =>
      obtain ⟨hFirst, hRest⟩ := List.forall_mem_cons.1 h
      have hStep : step ⟨.word read, tokens⟩ c = .ok ⟨.word (c :: read), tokens⟩ := by
        simp [step, hFirst]
      rw [scan_cons hStep, ih hRest, List.reverse_cons, List.append_assoc, List.singleton_append]

/-- A word is read as its token. -/
theorem reads_word {word : List Char} {token : Token} (hWord : word ≠ [])
    (hPlain : ∀ c ∈ word, endsWord c = false) (hToken : ofWord word = .ok token) :
    Reads word [token] := by
  intro tokens
  cases word with
  | nil => exact absurd rfl hWord
  | cons c rest =>
      obtain ⟨hFirst, hRest⟩ := List.forall_mem_cons.1 hPlain
      have hStep : step ⟨.gap, tokens⟩ c = .ok ⟨.word [c], tokens⟩ :=
        congrArg Except.ok (stepGap_of_not_endsWord hFirst tokens)
      refine ⟨_, by rw [scan_cons hStep, scan_word hRest], ?_⟩
      apply rests_word
      rwa [List.reverse_append, List.reverse_reverse, List.reverse_singleton,
        List.singleton_append]

theorem reads_and : Reads "AND".toList [.and] :=
  reads_word (by simp) (by simp [endsWord, Text.isBlank]) rfl

theorem reads_or : Reads "OR".toList [.or] :=
  reads_word (by simp) (by simp [endsWord, Text.isBlank]) rfl

/-- A hash and characters that do not end words are read as a tag. -/
theorem reads_tag {text : List Char} (hText : text ≠ []) (hPlain : ∀ c ∈ text, endsWord c = false) :
    Reads ('#' :: text) [.tag (String.ofList ('#' :: text))] := by
  apply reads_word (List.cons_ne_nil _ _)
  · exact List.forall_mem_cons.2 ⟨by decide, hPlain⟩
  · have hLength : ('#' :: text).length ≠ 1 := by
      rw [List.length_cons]
      simpa using hText
    rw [ofWord, if_pos ⟨rfl, hLength⟩]

/-- Whether a token could be a word of a text: no character of a tag ends words. -/
def IsPlain : Token → Prop
  | .tag text => ∀ c ∈ text.toList, endsWord c = false
  | _ => True

/-- A reader whose tokens are plain, also the word that it is in the middle of. -/
structure Scan.IsPlain (s : Scan) : Prop where
  tokens : ∀ token ∈ s.tokens, token.IsPlain
  word : ∀ read, s.within = .word read → ∀ c ∈ read, endsWord c = false

/-- Outside of words, only the tokens matter. -/
theorem isPlain_of_closed {within : Within} {tokens : List Token}
    (hClosed : ∀ read, within ≠ .word read) (h : ∀ token ∈ tokens, token.IsPlain) :
    (⟨within, tokens⟩ : Scan).IsPlain where
  tokens := h
  word read hWithin := absurd hWithin (hClosed read)

theorem isPlain_ofWord {word : List Char} {token : Token} (hWord : ∀ c ∈ word, endsWord c = false)
    (h : ofWord word = .ok token) : token.IsPlain := by
  unfold ofWord at h
  split at h
  · cases h
    intro c hc
    rw [String.toList_ofList] at hc
    exact hWord c hc
  · split at h
    · cases h
      trivial
    · split at h
      · cases h
        trivial
      · cases h

theorem isPlain_stepGap {tokens : List Token} (h : ∀ token ∈ tokens, token.IsPlain) (c : Char) :
    (stepGap tokens c).IsPlain := by
  by_cases hEnds : endsWord c = false
  · rw [stepGap_of_not_endsWord hEnds]
    refine ⟨h, ?_⟩
    intro read hRead d hd
    cases hRead
    rwa [List.mem_singleton.1 hd]
  · have hParenthesis (token : Token) (hToken : token.IsPlain) :
        (⟨.gap, token :: tokens⟩ : Scan).IsPlain :=
      isPlain_of_closed (by simp) (List.forall_mem_cons.2 ⟨hToken, h⟩)
    unfold stepGap
    split_ifs with hBlank hOpening hClosing hQuote
    · exact isPlain_of_closed (by simp) h
    · exact hParenthesis opening trivial
    · exact hParenthesis closing trivial
    · exact isPlain_of_closed (by simp) h
    · simp [endsWord, hBlank, hOpening, hClosing, hQuote] at hEnds

theorem isPlain_step {s s' : Scan} {c : Char} (h : s.IsPlain) (hStep : step s c = .ok s') :
    s'.IsPlain := by
  unfold step at hStep
  cases hWithin : s.within with
  | gap =>
      rw [hWithin] at hStep
      cases hStep
      exact isPlain_stepGap h.tokens c
  | word read =>
      simp only [hWithin] at hStep
      have hRead := h.word read hWithin
      split_ifs at hStep with hEnds
      · cases hToken : ofWord read.reverse with
        | error e =>
            rw [hToken] at hStep
            cases hStep
        | ok token =>
            rw [hToken] at hStep
            cases hStep
            have hPlain := isPlain_ofWord (fun d hd => hRead d (List.mem_reverse.1 hd)) hToken
            exact isPlain_stepGap (List.forall_mem_cons.2 ⟨hPlain, h.tokens⟩) c
      · cases hStep
        refine ⟨h.tokens, ?_⟩
        intro next hNext
        cases hNext
        exact List.forall_mem_cons.2 ⟨Bool.eq_false_iff.2 hEnds, hRead⟩
  | quoted read =>
      simp only [hWithin] at hStep
      split_ifs at hStep
      · cases hStep
        exact isPlain_of_closed (by simp) h.tokens
      · cases hStep
        exact isPlain_of_closed (by simp) (List.forall_mem_cons.2 ⟨trivial, h.tokens⟩)
      · cases hStep
        exact isPlain_of_closed (by simp) h.tokens
  | escaped read =>
      rw [hWithin] at hStep
      cases hStep
      exact isPlain_of_closed (by simp) h.tokens

theorem isPlain_scan {s s' : Scan} {text : List Char} (h : s.IsPlain)
    (hScan : scan s text = .ok s') : s'.IsPlain := by
  induction text generalizing s with
  | nil =>
      cases hScan
      exact h
  | cons c rest ih =>
      cases hStep : step s c with
      | error e =>
          rw [scan, List.foldlM_cons, hStep] at hScan
          cases hScan
      | ok next =>
          rw [scan_cons hStep] at hScan
          exact ih (isPlain_step h hStep) hScan

theorem isPlain_finish {s : Scan} {tokens : List Token} (h : s.IsPlain)
    (hFinish : finish s = .ok tokens) : ∀ token ∈ tokens, token.IsPlain := by
  unfold finish at hFinish
  cases hWithin : s.within with
  | gap =>
      rw [hWithin] at hFinish
      cases hFinish
      simpa using h.tokens
  | word read =>
      simp only [hWithin] at hFinish
      cases hToken : ofWord read.reverse with
      | error e =>
          rw [hToken] at hFinish
          cases hFinish
      | ok token =>
          rw [hToken] at hFinish
          cases hFinish
          have hRead := h.word read hWithin
          have hPlain := isPlain_ofWord (fun d hd => hRead d (List.mem_reverse.1 hd)) hToken
          intro other hOther
          exact List.forall_mem_cons.2 ⟨hPlain, h.tokens⟩ other (List.mem_reverse.1 hOther)
  | quoted read =>
      rw [hWithin] at hFinish
      cases hFinish
  | escaped read =>
      rw [hWithin] at hFinish
      cases hFinish

/-- Whatever the text is, the tags that are read in it have no characters that end words. -/
theorem isPlain_ofChars {text : List Char} {tokens : List Token}
    (h : ofChars text = .ok tokens) : ∀ token ∈ tokens, token.IsPlain := by
  have hStart : (⟨.gap, []⟩ : Scan).IsPlain := isPlain_of_closed (by simp) (by simp)
  cases hScan : scan ⟨.gap, []⟩ text with
  | error e =>
      rw [scan] at hScan
      rw [ofChars, hScan] at h
      cases h
  | ok s =>
      have hPlain := isPlain_scan hStart hScan
      rw [scan] at hScan
      rw [ofChars, hScan] at h
      exact isPlain_finish hPlain h

end Token
end NoteBoard.Query
