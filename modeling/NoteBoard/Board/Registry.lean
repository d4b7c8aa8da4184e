import NoteBoard.Board.Fetches

/-!
The registry of fetches with a token for each fetch. Every token is a child of the registry's root.
A token is cancelled when its fetch is superseded, and the root when all fetches are; the registry
then goes on with a new root. `Fetches` keeps of the tokens only which generations are cancelled.
-/

namespace NoteBoard

/-- Tokens that can be cancelled, and what can be relied on about them. -/
structure TokenStore where
  State : Type
  Token : Type
  /-- Before any token is made. -/
  empty : State
  /-- Makes a token, as a child of another one or on its own. -/
  make : State → Option Token → Token × State
  cancel : State → Token → State
  isCancelled : State → Token → Bool
  /-- The tokens that have been made. -/
  Made : State → Token → Prop
  /-- The token that a token is a child of, if any. -/
  parent : Token → Option Token
  parent_make (s : State) (above : Option Token) : parent (make s above).1 = above
  not_made_make (s : State) (above : Option Token) : ¬ Made s (make s above).1
  made_new (s : State) (above : Option Token) : Made (make s above).2 (make s above).1
  made_make {s : State} {t : Token} (above : Option Token) (h : Made s t) :
    Made (make s above).2 t
  made_cancel {s : State} {u : Token} (t : Token) (h : Made s u) : Made (cancel s t) u
  /-- A new token is live, unless its parent has been cancelled. -/
  isCancelled_new (s : State) (above : Option Token) :
    isCancelled (make s above).2 (make s above).1 = above.any (isCancelled s)
  isCancelled_make {s : State} {t : Token} (above : Option Token) (h : Made s t) :
    isCancelled (make s above).2 t = isCancelled s t
  isCancelled_cancel {s : State} {t : Token} (h : Made s t) : isCancelled (cancel s t) t = true
  /-- A token is cancelled for good. -/
  isCancelled_of_isCancelled {s : State} {u : Token} (t : Token) (h : isCancelled s u = true) :
    isCancelled (cancel s t) u = true
  /-- A token dies with its parent. -/
  isCancelled_of_parent {s : State} {t above : Token} (hParent : parent t = some above)
    (h : isCancelled s above = true) : isCancelled s t = true
  /-- No other token is cancelled. -/
  of_isCancelled_cancel {s : State} {t u : Token} (h : isCancelled (cancel s t) u = true) :
    isCancelled s u = true ∨ u = t ∨
      ∃ above, parent u = some above ∧ isCancelled (cancel s t) above = true

namespace TokenStore

/-- Cancels a token if there is one. -/
def cancelAny (store : TokenStore) (s : store.State) : Option store.Token → store.State
  | some t => store.cancel s t
  | none => s

/-- A token by its number and the token it is a child of. -/
inductive Mark where
  | root (number : Nat)
  | child (above : Mark) (number : Nat)
deriving DecidableEq

namespace Mark

/-- Tokens are numbered in the order in which they are made. -/
def number : Mark → Nat
  | root number | child _ number => number

/-- The token it is a child of. -/
def parent : Mark → Option Mark
  | root _ => none
  | child above _ => some above

/-- Whether a token or one above it is on a list. -/
def isUnder (marks : List Mark) : Mark → Bool
  | root number => marks.contains (root number)
  | child above number => marks.contains (child above number) || above.isUnder marks

theorem isUnder_of_mem {marks : List Mark} {t : Mark} (h : t ∈ marks) :
    t.isUnder marks = true := by
  cases t with
  | root number => simpa [isUnder] using h
  | child above number => simp [isUnder, h]

theorem isUnder_cons {marks : List Mark} (t : Mark) {u : Mark} (h : u.isUnder marks = true) :
    u.isUnder (t :: marks) = true := by
  induction u with
  | root number =>
    simp only [isUnder, List.contains_iff_mem] at h ⊢
    exact List.mem_cons_of_mem t h
  | child above number ih =>
    simp only [isUnder, Bool.or_eq_true, List.contains_iff_mem] at h ⊢
    exact h.imp (List.mem_cons_of_mem t) ih

theorem of_isUnder_cons {marks : List Mark} {t u : Mark} (h : u.isUnder (t :: marks) = true) :
    u.isUnder marks = true ∨ u = t ∨
      ∃ above, u.parent = some above ∧ above.isUnder (t :: marks) = true := by
  cases u with
  | root number =>
    simp only [isUnder, List.contains_iff_mem, List.mem_cons] at h ⊢
    exact h.symm.imp_right Or.inl
  | child above number =>
    simp only [isUnder, Bool.or_eq_true, List.contains_iff_mem, List.mem_cons] at h ⊢
    obtain (h | h) | h := h
    · exact .inr (.inl h)
    · exact .inl (.inl h)
    · exact .inr (.inr ⟨above, rfl, h⟩)

end Mark

/-- Numbered tokens, and those that have been cancelled one by one. -/
structure Numbered where
  made : Nat
  cancelled : List Mark
  number_lt : ∀ t ∈ cancelled, t.number < made

namespace Numbered

/-- Makes the next token. -/
def make (s : Numbered) (above : Option Mark) : Mark × Numbered :=
  (above.elim (.root s.made) (.child · s.made),
    ⟨s.made + 1, s.cancelled, fun t ht => Nat.lt_succ_of_lt (s.number_lt t ht)⟩)

/-- Cancels a token, if it has been made. -/
def cancel (s : Numbered) (t : Mark) : Numbered :=
  if h : t.number < s.made then ⟨s.made, t :: s.cancelled, List.forall_mem_cons.2 ⟨h, s.number_lt⟩⟩
  else s

theorem cancel_cases (s : Numbered) (t : Mark) :
    (s.cancel t).made = s.made ∧ (s.cancel t).cancelled = t :: s.cancelled ∨ s.cancel t = s := by
  unfold cancel
  split
  · exact .inl ⟨rfl, rfl⟩
  · exact .inr rfl

theorem isUnder_make (s : Numbered) (above : Option Mark) :
    (s.make above).1.isUnder s.cancelled = above.any (·.isUnder s.cancelled) := by
  have hNew (t : Mark) (hNumber : t.number = s.made) : t ∉ s.cancelled :=
    fun h => Nat.ne_of_lt (s.number_lt t h) hNumber
  cases above with
  | none => simpa [make, Mark.isUnder] using hNew (.root s.made) rfl
  | some above =>
    have hChild := hNew (.child above s.made) rfl
    simp [make, Mark.isUnder, hChild]

end Numbered

/-- Tokens as numbered marks. -/
def numbered : TokenStore where
  State := Numbered
  Token := Mark
  empty := ⟨0, [], nofun⟩
  make := Numbered.make
  cancel := Numbered.cancel
  isCancelled s t := t.isUnder s.cancelled
  Made s t := t.number < s.made
  parent := Mark.parent
  parent_make s above := by cases above <;> rfl
  not_made_make s above := by cases above <;> exact Nat.lt_irrefl s.made
  made_new s above := by cases above <;> exact Nat.lt_succ_self s.made
  made_make _ h := Nat.lt_succ_of_lt h
  made_cancel {s u} t h := by
    obtain ⟨hMade, -⟩ | hSame := s.cancel_cases t
    · exact hMade ▸ h
    · rwa [hSame]
  isCancelled_new := Numbered.isUnder_make
  isCancelled_make _ _ := rfl
  isCancelled_cancel h := by
    rw [Numbered.cancel, dif_pos h]
    exact Mark.isUnder_of_mem List.mem_cons_self
  isCancelled_of_isCancelled {s u} t h := by
    obtain ⟨-, hCancelled⟩ | hSame := s.cancel_cases t
    · exact hCancelled ▸ Mark.isUnder_cons t h
    · rwa [hSame]
  isCancelled_of_parent {s t above} hParent h := by
    cases t with
    | root number => cases hParent
    | child other number =>
      cases hParent
      simp [Mark.isUnder, h]
  of_isCancelled_cancel {s t u} h := by
    obtain ⟨-, hCancelled⟩ | hSame := s.cancel_cases t
    · rw [hCancelled] at h ⊢
      exact Mark.of_isUnder_cons h
    · exact .inl (hSame ▸ h)

end TokenStore

/-- The fetches of a board, each with a token. -/
structure Registry (store : TokenStore) where
  tokens : store.State
  root : store.Token
  /-- The generation of the last ticket. -/
  generation : Nat
  /-- The generation and the token that are under way for each widget. -/
  inFlight : Table (Nat × store.Token)

namespace Registry

variable {store : TokenStore}

/-- No fetch yet. -/
def new (store : TokenStore) : Registry store :=
  let (root, tokens) := store.make store.empty none
  ⟨tokens, root, 0, []⟩

/-- The token of the fetch that is under way for a widget. -/
def token? (r : Registry store) (widget : String) : Option store.Token :=
  (r.inFlight.lookup widget).map Prod.snd

/-- Starts a fetch for a widget, and cancels the one that is under way. -/
def start (r : Registry store) (widget : String) : (Ticket × store.Token) × Registry store :=
  let generation := r.generation + 1
  let (token, tokens) := store.make r.tokens (some r.root)
  ((⟨widget, generation⟩, token),
    { r with
      tokens := store.cancelAny tokens (r.token? widget)
      generation
      inFlight := r.inFlight.set widget (generation, token) })

/-- Cancels the fetch of a widget, and says whether one was under way. -/
def cancel (r : Registry store) (widget : String) : Bool × Registry store :=
  let token := r.token? widget
  (token.isSome,
    { r with
      tokens := store.cancelAny r.tokens token
      inFlight := r.inFlight.erase widget })

/-- Cancels all fetches. -/
def clear (r : Registry store) : Registry store :=
  let (root, tokens) := store.make (store.cancel r.tokens r.root) none
  { r with tokens, root, inFlight := [] }

/-- Forgets a fetch that has ended, if it is the one under way for its widget. -/
def ended (r : Registry store) (t : Ticket) : Registry store :=
  if (r.inFlight.lookup t.widget).map Prod.fst = some t.generation then
    { r with inFlight := r.inFlight.erase t.widget }
  else r

end Registry
end NoteBoard
