import NoteBoard.Proofs.Json.Form
import NoteBoard.Proofs.Number.Whole

/-! The numbers in what is read from a text. Whatever the literals are, they are finite. -/
namespace NoteBoard.Json

variable {K : Type}

/-- All numbers in the value are in a class. -/
inductive AllNumbers (p : K → Prop) : Json K → Prop where
  | null : AllNumbers p .null
  | bool (value : Bool) : AllNumbers p (.bool value)
  | integer (n : Int) : AllNumbers p (.integer n)
  | real {x : K} (hNumber : p x) : AllNumbers p (.real x)
  | text (value : String) : AllNumbers p (.text value)
  | array {items : List (Json K)} (hItems : ∀ item ∈ items, AllNumbers p item) :
      AllNumbers p (.array items)
  | object {members : List (String × Json K)} (hMembers : ∀ m ∈ members, AllNumbers p m.2) :
      AllNumbers p (.object members)
  | unusable : AllNumbers p .unusable

variable {p : K → Prop}

/-- Whatever a map that may fail returns for a list comes from an item of it. -/
theorem exists_mem_of_mapM {α β : Type} {f : α → Option β} {items : List α} {results : List β}
    (h : items.mapM f = some results) {b : β} (hb : b ∈ results) : ∃ a ∈ items, f a = some b := by
  induction items generalizing results with
  | nil =>
      cases h
      cases hb
  | cons a rest ih =>
      rw [List.mapM_cons] at h
      obtain ⟨first, hFirst, hMore⟩ := Option.bind_eq_some_iff.1 h
      obtain ⟨others, hOthers, hResults⟩ := Option.bind_eq_some_iff.1 hMore
      cases hResults
      rcases List.mem_cons.1 hb with rfl | hb
      · exact ⟨a, List.mem_cons_self, hFirst⟩
      · obtain ⟨source, hSource, hSame⟩ := ih hOthers hb
        exact ⟨source, List.mem_cons_of_mem a hSource, hSame⟩

namespace Token

def AllNumbers (p : K → Prop) : Token K → Prop
  | .scalar value => value.AllNumbers p
  | _ => True

/-- A character between units adds no number. -/
theorem allNumbers_stepGap {tokens : List (Token K)} {c : Char} {s : Scan K}
    (hTokens : ∀ token ∈ tokens, token.AllNumbers p) (h : stepGap tokens c = some s) :
    ∀ token ∈ s.tokens, token.AllNumbers p := by
  have hMore {token : Token K} (hToken : token.AllNumbers p) :
      ∀ other ∈ token :: tokens, other.AllNumbers p :=
    List.forall_mem_cons.2 ⟨hToken, hTokens⟩
  unfold stepGap at h
  split_ifs at h
  · cases h
    exact hTokens
  · cases h
    exact hTokens
  · cases h
    exact hTokens
  · split at h <;> cases h
    · exact hTokens
    all_goals exact hMore trivial

theorem allNumbers_ofWord {read : List Char} {token : Token K} (h : ofWord read = some token) :
    token.AllNumbers p := by
  unfold ofWord at h
  split at h
  · cases h
    exact .null
  · cases h
    exact .bool true
  · cases h
    exact .bool false
  · cases h

variable [Numeral K]

theorem allNumbers_ofNumber (hReal : ∀ parts x, Literal.real? parts = some x → p x)
    {read : List Char} {token : Token K} (h : ofNumber read = some token) :
    token.AllNumbers p := by
  obtain ⟨parts, -, rfl⟩ := Option.map_eq_some_iff.1 h
  show (Literal.value parts).AllNumbers p
  simp only [Literal.value]
  cases hValue : (Literal.real? parts : Option K) with
  | none =>
      split_ifs
      exacts [.unusable, .integer _, .unusable, .integer _, .unusable]
  | some x =>
      have hNumber := hReal parts x hValue
      split_ifs
      exacts [.real hNumber, .integer _, .real hNumber, .integer _, .real hNumber]

theorem allNumbers_step (hReal : ∀ parts x, Literal.real? parts = some x → p x)
    {s s' : Scan K} {c : Char} (hTokens : ∀ token ∈ s.tokens, token.AllNumbers p)
    (h : step s c = some s') : ∀ token ∈ s'.tokens, token.AllNumbers p := by
  obtain ⟨within, tokens⟩ := s
  cases within with
  | gap => exact allNumbers_stepGap hTokens h
  | number read =>
      simp only [step] at h
      split_ifs at h
      · cases h
        exact hTokens
      · obtain ⟨token, hToken, hStep⟩ := Option.bind_eq_some_iff.1 h
        exact allNumbers_stepGap
          (List.forall_mem_cons.2 ⟨allNumbers_ofNumber hReal hToken, hTokens⟩) hStep
  | word read =>
      simp only [step] at h
      split_ifs at h
      · cases h
        exact hTokens
      · obtain ⟨token, hToken, hStep⟩ := Option.bind_eq_some_iff.1 h
        exact allNumbers_stepGap
          (List.forall_mem_cons.2 ⟨allNumbers_ofWord hToken, hTokens⟩) hStep
  | text units =>
      simp only [step] at h
      split_ifs at h
      · cases h
        exact List.forall_mem_cons.2 ⟨trivial, hTokens⟩
      · cases h
        exact hTokens
      · cases h
        exact hTokens
  | escape units =>
      simp only [step] at h
      split_ifs at h
      · cases h
        exact hTokens
      · obtain ⟨_, -, rfl⟩ := Option.map_eq_some_iff.1 h
        exact hTokens
  | hex units left value =>
      obtain ⟨_, -, rfl⟩ := Option.map_eq_some_iff.1 h
      dsimp only
      split_ifs
      · exact hTokens
      · exact hTokens

theorem allNumbers_finish (hReal : ∀ parts x, Literal.real? parts = some x → p x)
    {s : Scan K} {tokens : List (Token K)} (hTokens : ∀ token ∈ s.tokens, token.AllNumbers p)
    (h : finish s = some tokens) : ∀ token ∈ tokens, token.AllNumbers p := by
  obtain ⟨within, before⟩ := s
  have hReverse {others : List (Token K)} (hOthers : ∀ token ∈ others, token.AllNumbers p) :
      ∀ token ∈ others.reverse, token.AllNumbers p :=
    fun token hToken => hOthers token (List.mem_reverse.1 hToken)
  cases within with
  | gap =>
      cases h
      exact hReverse hTokens
  | number read =>
      obtain ⟨token, hToken, rfl⟩ := Option.map_eq_some_iff.1 h
      exact hReverse (List.forall_mem_cons.2 ⟨allNumbers_ofNumber hReal hToken, hTokens⟩)
  | word read =>
      obtain ⟨token, hToken, rfl⟩ := Option.map_eq_some_iff.1 h
      exact hReverse (List.forall_mem_cons.2 ⟨allNumbers_ofWord hToken, hTokens⟩)
  | text units => cases h
  | escape units => cases h
  | hex units left value => cases h

theorem allNumbers_ofChars? (hReal : ∀ parts x, Literal.real? parts = some x → p x)
    {text : List Char} {tokens : List (Token K)} (h : ofChars? text = some tokens) :
    ∀ token ∈ tokens, token.AllNumbers p := by
  have hScan (s s' : Scan K) (hTokens : ∀ token ∈ s.tokens, token.AllNumbers p)
      (hRead : text.foldlM step s = some s') : ∀ token ∈ s'.tokens, token.AllNumbers p := by
    clear h
    induction text generalizing s with
    | nil =>
        cases hRead
        exact hTokens
    | cons c rest ih =>
        obtain ⟨next, hStep, hRest⟩ := Option.bind_eq_some_iff.1 hRead
        exact ih next (allNumbers_step hReal hTokens hStep) hRest
  obtain ⟨s, hRead, hFinish⟩ := Option.bind_eq_some_iff.1 h
  exact allNumbers_finish hReal (hScan _ s (by simp) hRead) hFinish

end Token

def Frame.AllNumbers (p : K → Prop) : Frame K → Prop
  | .array done => ∀ value ∈ done, value.AllNumbers p
  | .object done _ => ∀ m ∈ done, m.2.AllNumbers p

namespace Build

structure AllNumbers (p : K → Prop) (b : Build K) : Prop where
  frames : ∀ frame ∈ b.frames, frame.AllNumbers p
  result : b.result.AllNumbers p

theorem allNumbers_deliver {value : Json K} {frames : List (Frame K)}
    (hValue : value.AllNumbers p) (hFrames : ∀ frame ∈ frames, frame.AllNumbers p) :
    (deliver value frames).AllNumbers p := by
  cases frames with
  | nil => exact ⟨by simp [deliver], hValue⟩
  | cons frame outer =>
      obtain ⟨hFrame, hOuter⟩ := List.forall_mem_cons.1 hFrames
      cases frame with
      | array done =>
          exact ⟨List.forall_mem_cons.2 ⟨List.forall_mem_cons.2 ⟨hValue, hFrame⟩, hOuter⟩, .null⟩
      | object done name =>
          exact ⟨List.forall_mem_cons.2 ⟨List.forall_mem_cons.2 ⟨hValue, hFrame⟩, hOuter⟩, .null⟩

theorem allNumbers_objectOf {done : List (Option String × Json K)}
    (h : ∀ m ∈ done, m.2.AllNumbers p) : (objectOf done).AllNumbers p := by
  unfold objectOf
  split
  · next members hMembers =>
    refine .object fun m hm => ?_
    obtain ⟨⟨name, value⟩, hSource, hNamed⟩ := exists_mem_of_mapM hMembers hm
    obtain ⟨_, -, rfl⟩ := Option.map_eq_some_iff.1 hNamed
    exact h (name, value) (List.mem_reverse.1 hSource)
  · exact .unusable

theorem allNumbers_close {frames : List (Frame K)} {b : Build K}
    (hFrames : ∀ frame ∈ frames, frame.AllNumbers p) (h : close frames = some b) :
    b.AllNumbers p := by
  cases frames with
  | nil => cases h
  | cons frame outer =>
      obtain ⟨hFrame, hOuter⟩ := List.forall_mem_cons.1 hFrames
      have hHeld {value : Json K} (hValue : value.AllNumbers p) :
          (if outer.length + 1 ≤ depthLimit then value else .unusable : Json K).AllNumbers p := by
        split
        · exact hValue
        · exact .unusable
      cases frame with
      | array done =>
          cases h
          have hItems : ∀ item ∈ done.reverse, item.AllNumbers p :=
            fun item hItem => hFrame item (List.mem_reverse.1 hItem)
          exact allNumbers_deliver (hHeld (.array hItems)) hOuter
      | object done name =>
          cases h
          exact allNumbers_deliver (hHeld (allNumbers_objectOf hFrame)) hOuter

theorem allNumbers_openValue {frames : List (Frame K)} {token : Token K} {b : Build K}
    (hFrames : ∀ frame ∈ frames, frame.AllNumbers p) (hToken : token.AllNumbers p)
    (h : openValue frames token = some b) : b.AllNumbers p := by
  unfold openValue at h
  split at h <;> cases h
  · exact ⟨List.forall_mem_cons.2 ⟨by simp [Frame.AllNumbers], hFrames⟩, .null⟩
  · exact ⟨List.forall_mem_cons.2 ⟨by simp [Frame.AllNumbers], hFrames⟩, .null⟩
  · exact allNumbers_deliver hToken hFrames
  · exact allNumbers_deliver (.text _) hFrames
  · exact allNumbers_deliver .unusable hFrames

theorem allNumbers_openName {frames : List (Frame K)} {token : Token K} {b : Build K}
    (hFrames : ∀ frame ∈ frames, frame.AllNumbers p) (h : openName frames token = some b) :
    b.AllNumbers p := by
  unfold openName at h
  split at h <;> cases h
  obtain ⟨hFrame, hOuter⟩ := List.forall_mem_cons.1 hFrames
  exact ⟨List.forall_mem_cons.2 ⟨hFrame, hOuter⟩, .null⟩

theorem allNumbers_continued {frames : List (Frame K)} {token : Token K} {b : Build K}
    (hFrames : ∀ frame ∈ frames, frame.AllNumbers p) (h : continued frames token = some b) :
    b.AllNumbers p := by
  unfold continued at h
  split at h
  · cases h
    exact ⟨hFrames, .null⟩
  · exact allNumbers_close hFrames h
  · cases h
    exact ⟨hFrames, .null⟩
  · exact allNumbers_close hFrames h
  · cases h

theorem allNumbers_step {b b' : Build K} {token : Token K} (hBuild : b.AllNumbers p)
    (hToken : token.AllNumbers p) (h : step b token = some b') : b'.AllNumbers p := by
  unfold step at h
  split at h
  · exact allNumbers_openValue hBuild.frames hToken h
  · exact allNumbers_close hBuild.frames h
  · exact allNumbers_openValue hBuild.frames hToken h
  · exact allNumbers_openName hBuild.frames h
  · exact allNumbers_close hBuild.frames h
  · exact allNumbers_openName hBuild.frames h
  · cases h
    exact ⟨hBuild.frames, .null⟩
  · cases h
  · exact allNumbers_continued hBuild.frames h
  · cases h

end Build

theorem allNumbers_ofTokens? {tokens : List (Token K)} {value : Json K}
    (hTokens : ∀ token ∈ tokens, token.AllNumbers p) (h : ofTokens? tokens = some value) :
    value.AllNumbers p := by
  have hBuilt (b b' : Build K) (hBuild : b.AllNumbers p)
      (hRun : tokens.foldlM Build.step b = some b') : b'.AllNumbers p := by
    clear h
    induction tokens generalizing b with
    | nil =>
        cases hRun
        exact hBuild
    | cons token rest ih =>
        obtain ⟨hFirst, hRest⟩ := List.forall_mem_cons.1 hTokens
        obtain ⟨next, hStep, hMore⟩ := Option.bind_eq_some_iff.1 hRun
        exact ih hRest next (Build.allNumbers_step hBuild hFirst hStep) hMore
  obtain ⟨b, hRun, hResult⟩ := Option.bind_eq_some_iff.1 h
  have hEnd := hBuilt _ b ⟨by simp, .null⟩ hRun
  split at hResult
  · cases hResult
    exact hEnd.result
  · cases hResult

theorem allNumbers_insertMember {name : String} {value : Json K}
    {members : List (String × Json K)} (hValue : value.AllNumbers p)
    (hMembers : ∀ m ∈ members, m.2.AllNumbers p) :
    ∀ m ∈ insertMember name value members, m.2.AllNumbers p := by
  induction members with
  | nil => exact List.forall_mem_singleton.2 hValue
  | cons m rest ih =>
      obtain ⟨hFirst, hRest⟩ := List.forall_mem_cons.1 hMembers
      obtain ⟨other, known⟩ := m
      rw [insertMember]
      split_ifs
      · exact List.forall_mem_cons.2 ⟨hValue, hMembers⟩
      · exact List.forall_mem_cons.2 ⟨hValue, hRest⟩
      · exact List.forall_mem_cons.2 ⟨hFirst, ih hRest⟩

theorem allNumbers_canonicalMembers {members sorted : List (String × Json K)}
    (hMembers : ∀ m ∈ members, m.2.canonical.AllNumbers p)
    (hSorted : ∀ m ∈ sorted, m.2.AllNumbers p) :
    ∀ m ∈ canonicalMembers members sorted, m.2.AllNumbers p := by
  induction members generalizing sorted with
  | nil => exact hSorted
  | cons m rest ih =>
      obtain ⟨hFirst, hRest⟩ := List.forall_mem_cons.1 hMembers
      exact ih hRest (allNumbers_insertMember hFirst hSorted)

theorem AllNumbers.canonical {value : Json K} (h : value.AllNumbers p) :
    value.canonical.AllNumbers p := by
  induction h with
  | null => exact .null
  | bool value => exact .bool value
  | integer n => exact .integer n
  | real hNumber => exact .real hNumber
  | text value => exact .text value
  | array _ ih =>
      rw [Json.canonical, canonicalItems_eq]
      exact .array (List.forall_mem_map.2 ih)
  | object _ ih => exact .object (allNumbers_canonicalMembers ih (by simp))
  | unusable => exact .unusable

/-- The numbers in what a text writes are those of literals. -/
theorem allNumbers_readCanonical? [Numeral K]
    (hReal : ∀ parts x, Literal.real? parts = some x → p x) {text : String} {value : Json K}
    (h : readCanonical? text = some value) : value.AllNumbers p := by
  obtain ⟨written, hRead, hHeld⟩ := Option.bind_eq_some_iff.1 h
  obtain ⟨tokens, hTokens, hBuilt⟩ := Option.bind_eq_some_iff.1 hRead
  split at hHeld
  · cases hHeld
    exact (allNumbers_ofTokens? (Token.allNumbers_ofChars? hReal hTokens) hBuilt).canonical
  · cases hHeld

namespace Literal

theorem isFinite_div {a : Exact} {b : Rat} (ha : Number.isFinite a = true) (hb : b ≠ 0) :
    Number.isFinite (a / .finite b) = true := by
  obtain ⟨x, rfl⟩ := Exact.exists_finite_of_isFinite ha
  rw [Exact.finite_div x hb]
  rfl

/-- A power of ten to divide by. -/
theorem exists_power (power : Nat) :
    ∃ b : Rat, b ≠ 0 ∧ (Numeral.ofDecimal false ⟨1, power⟩ : Exact) = .finite b := by
  have hPositive (n : Nat) : (tenTo n : Rat) ≠ 0 := Nat.cast_ne_zero.2 (tenTo_pos n).ne'
  exact ⟨_, div_ne_zero (mul_ne_zero (Nat.cast_ne_zero.2 one_ne_zero) (hPositive _)) (hPositive _),
    rfl⟩

theorem isFinite_scaleDown {x : Exact} (hx : Number.isFinite x = true) (power : Nat) :
    Number.isFinite (scaleDown x power) = true := by
  fun_induction scaleDown x power with
  | case1 x power h =>
      obtain ⟨b, hb, hPower⟩ := exists_power power
      rw [hPower]
      exact isFinite_div hx hb
  | case2 => exact hx
  | case3 x power h hZero ih =>
      obtain ⟨b, hb, hPower⟩ := exists_power powerLimit
      rw [hPower] at ih ⊢
      exact ih (isFinite_div hx hb)

theorem isFinite_scale? {significand : Nat} {exponent : Int} {x : Exact}
    (h : scale? significand exponent = some x) : Number.isFinite x = true := by
  simp only [scale?] at h
  split at h
  · split at h
    · split at h
      · next hFinite =>
        cases h
        exact hFinite
      · cases h
    · split at h
      · cases h
        rfl
      · cases h
  · cases h
    exact isFinite_scaleDown rfl _

theorem isFinite_real? {parts : Parts} {x : Exact} (h : real? parts = some x) :
    Number.isFinite x = true := by
  unfold real? at h
  obtain ⟨size, hSize, rfl⟩ := Option.map_eq_some_iff.1 h
  have hFinite : Number.isFinite size = true := by
    split at hSize
    · exact isFinite_scale? hSize
    · dsimp only at hSize
      split at hSize
      · exact isFinite_scale? hSize
      · split at hSize
        · cases hSize
        · cases hSize
          rfl
  obtain ⟨a, rfl⟩ := Exact.exists_finite_of_isFinite hFinite
  split <;> rfl

end Literal
end NoteBoard.Json
