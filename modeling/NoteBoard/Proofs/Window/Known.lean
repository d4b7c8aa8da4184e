import NoteBoard.Proofs.Text.Listed
import NoteBoard.Window.Timeframe

/-! What a stored id is taken for. The window of a choice goes by its id without the white space
around it; the label, and whether the id is known, go by the id as it is stored. They take every id
for the same exactly if there is no white space around it. -/
namespace NoteBoard

namespace Preset

/-- What an id stands for: bounds of one's own, a preset, or nothing that is known. -/
inductive Meaning where
  | own
  | named (preset : Preset)
  | unknown
deriving DecidableEq

/-- Of several presets with an id the first one counts, and none with the id of one's own bounds. -/
def meaning (presets : List Preset) (id : String) : Meaning :=
  if id = customId then .own
  else match presets.find? (·.id == id) with
    | some preset => .named preset
    | none => .unknown

namespace Meaning

def isKnown : Meaning → Bool
  | .unknown => false
  | _ => true

def label (id : String) : Meaning → String
  | .own => "Custom range"
  | .named preset => preset.label
  | .unknown => "Unknown preset (" ++ id ++ ")"

def window (f : Timeframe) (now : Instant) : Meaning → Window
  | .own => Timeframe.ofBounds f.start f.finish
  | .named preset => Timeframe.ofKind now preset.kind
  | .unknown => Window.always

end Meaning

variable {presets : List Preset} {preset : Preset} {id : String}

theorem meaning_eq_own_iff : meaning presets id = .own ↔ id = customId := by
  unfold meaning
  split
  · next hOwn => exact iff_of_true rfl hOwn
  · next hOwn =>
    refine iff_of_false ?_ hOwn
    split <;> nofun

theorem of_meaning_named (h : meaning presets id = .named preset) :
    preset ∈ presets ∧ preset.id = id := by
  unfold meaning at h
  split at h
  · cases h
  · split at h
    · next found hFound =>
      obtain rfl := Meaning.named.inj h
      exact ⟨List.mem_of_find?_eq_some hFound, by simpa using List.find?_some hFound⟩
    · cases h

theorem isKnown_eq (presets : List Preset) (id : String) :
    isKnown presets id = (meaning presets id).isKnown := by
  unfold isKnown meaning
  split
  · next hOwn => simp [hOwn, Meaning.isKnown]
  · next hOwn =>
    rw [beq_eq_false_iff_ne.2 hOwn, Bool.false_or, ← List.isSome_find?]
    cases presets.find? (·.id == id) <;> rfl

theorem labelOf_eq (presets : List Preset) (id : String) :
    labelOf presets id = (meaning presets id).label id := by
  unfold labelOf meaning
  split
  · rfl
  · cases presets.find? (·.id == id) <;> rfl

theorem isKnown_eq_false_iff : isKnown presets id = false ↔ meaning presets id = .unknown := by
  rw [isKnown_eq]
  cases meaning presets id <;> simp [Meaning.isKnown]

/-- Two ids stand for the same only if they are the same or neither is known. -/
theorem meaning_eq_iff {id' : String} : meaning presets id = meaning presets id' ↔
    id = id' ∨ isKnown presets id = false ∧ isKnown presets id' = false := by
  rw [isKnown_eq_false_iff, isKnown_eq_false_iff]
  constructor
  · intro hSame
    cases hMeaning : meaning presets id with
    | own =>
        have hOwn := meaning_eq_own_iff.1 (hSame ▸ hMeaning)
        exact .inl ((meaning_eq_own_iff.1 hMeaning).trans hOwn.symm)
    | named preset =>
        have hOther := of_meaning_named (hSame ▸ hMeaning)
        exact .inl ((of_meaning_named hMeaning).2.symm.trans hOther.2)
    | unknown => exact .inr ⟨rfl, hSame ▸ hMeaning⟩
  · rintro (rfl | ⟨hFirst, hSecond⟩)
    · rfl
    · rw [hFirst, hSecond]

end Preset

namespace Timeframe

open Preset

/-- The window of a choice, its label and whether its id is known are those of one meaning. -/
structure IsTakenFor (f : Timeframe) (presets : List Preset) (now : Instant) (m : Meaning) :
    Prop where
  listed : ∀ preset, m = .named preset → preset ∈ presets
  isKnown_eq : isKnown presets f.preset = m.isKnown
  label_eq : labelOf presets f.preset = m.label f.preset
  window_eq : f.resolve presets now = m.window f now

variable {f : Timeframe} {presets : List Preset} {now : Instant}

theorem resolve_eq (f : Timeframe) (presets : List Preset) (now : Instant) :
    f.resolve presets now = (meaning presets (Text.trim f.preset)).window f now := by
  simp only [resolve, meaning]
  split
  · rfl
  · cases presets.find? (·.id == Text.trim f.preset) <;> rfl

theorem isTakenFor_of_trim (h : Text.trim f.preset = f.preset) :
    f.IsTakenFor presets now (meaning presets f.preset) where
  listed _ hNamed := (of_meaning_named hNamed).1
  isKnown_eq := Preset.isKnown_eq presets f.preset
  label_eq := labelOf_eq presets f.preset
  window_eq := by rw [resolve_eq, h]

/-- What is not known as it is stored must have the window of all time. -/
theorem IsTakenFor.resolve_eq_always {m : Meaning} (h : f.IsTakenFor presets now m)
    (hUnknown : isKnown presets f.preset = false) : f.resolve presets now = Window.always := by
  have hMeaning := h.isKnown_eq
  rw [hUnknown] at hMeaning
  cases m with
  | own => cases hMeaning
  | named preset => cases hMeaning
  | unknown => exact h.window_eq

/-- An id with white space around it can be that of a known choice which is not known by it. -/
theorem exists_resolve_ne_always {id : String} (h : Text.trim id ≠ id) (now : Instant) :
    ∃ presets start finish, isKnown presets id = false ∧
      resolve ⟨id, start, finish⟩ presets now ≠ Window.always := by
  have hStored : id ≠ customId := by
    rintro rfl
    exact h (by decide +kernel)
  by_cases hOwn : Text.trim id = customId
  · refine ⟨[], some "2024-03-10", none, by simp [isKnown, hStored], fun hAlways => ?_⟩
    have hBounds : ofBounds (some "2024-03-10") none ≠ Window.always := by decide +kernel
    exact hBounds (by simpa only [resolve, if_pos hOwn] using hAlways)
  · refine ⟨[⟨Text.trim id, "Today", .relative 0 0⟩], none, none, ?_, fun hAlways => ?_⟩
    · simp [isKnown, hStored, h]
    · have hToday : now.date.shift? 0 = some now.date := by
        rw [Date.shift?, Int.add_zero, Date.ofNumber?_number]
      have hStart := congrArg Window.start hAlways
      simp [resolve, hOwn, ofKind, relative, between, hToday, Window.always] at hStart

/-- The label of a choice and whether it is known are those of its id as it is stored, the window is
that of the id without white space around it, and the two ids stand for the same only if they are
the same or neither is known. So an id is taken for the same throughout, whatever the presets and
the bounds, exactly if there is no white space around it. -/
theorem taken_alike (f : Timeframe) (now : Instant) :
    (∀ presets, isKnown presets f.preset = (meaning presets f.preset).isKnown ∧
      labelOf presets f.preset = (meaning presets f.preset).label f.preset ∧
      f.resolve presets now = (meaning presets (Text.trim f.preset)).window f now ∧
      (meaning presets (Text.trim f.preset) = meaning presets f.preset ↔
        Text.trim f.preset = f.preset ∨
          isKnown presets (Text.trim f.preset) = false ∧ isKnown presets f.preset = false)) ∧
    ((∀ presets start finish, ∃ m, IsTakenFor ⟨f.preset, start, finish⟩ presets now m) ↔
      Text.trim f.preset = f.preset) := by
  constructor
  · intro presets
    exact ⟨Preset.isKnown_eq _ _, labelOf_eq _ _, f.resolve_eq presets now, meaning_eq_iff⟩
  constructor
  · intro hAlike
    by_contra hSpaced
    obtain ⟨presets, start, finish, hUnknown, hWindow⟩ := exists_resolve_ne_always hSpaced now
    obtain ⟨m, hTaken⟩ := hAlike presets start finish
    exact hWindow (hTaken.resolve_eq_always hUnknown)
  · intro hTrim presets start finish
    exact ⟨_, isTakenFor_of_trim hTrim⟩

/-- The window is that of today, but the id is not known. -/
example (now : Instant) : isKnown defaults " today " = false ∧
    resolve ⟨" today ", none, none⟩ defaults now = relative 0 0 now.date :=
  ⟨by decide +kernel, rfl⟩

end Timeframe
end NoteBoard
