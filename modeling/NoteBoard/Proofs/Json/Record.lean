import NoteBoard.Json.Decode
import NoteBoard.Json.Forgiving
import NoteBoard.Proofs.Json.Form

/-! Reading stored values: what a reader of a structure finds is what was written for it. -/
namespace NoteBoard.Json

variable {K : Type} {α : Type}

/-- In either form, what was written is read as a value. -/
def Restores (decode : Json K → Option α) (written : Json K) (value : α) : Prop :=
  ∀ sorted, decode (written.form sorted) = some value

theorem restores_text (text : String) : Restores (K := K) text? (.text text) text :=
  fun _ => by rw [form_text]; rfl

theorem restores_bool (value : Bool) : Restores (K := K) bool? (.bool value) value :=
  fun _ => by rw [form_bool]; rfl

theorem restores_nat32 {n : Nat} (h : n < twoTo 32) : Restores (K := K) nat32? (.integer n) n := by
  intro _
  have hBounds : (0 : Int) ≤ n ∧ (n : Int) ≤ twoTo 32 - 1 := by omega
  simp [nat32?, integer?, hBounds]

theorem restores_nat64 {n : Nat} (h : n < twoTo 64) : Restores (K := K) nat64? (.integer n) n := by
  intro _
  have hBounds : (0 : Int) ≤ n ∧ (n : Int) ≤ twoTo 64 - 1 := by omega
  simp [nat64?, integer?, hBounds]

theorem restores_lenientNumber [Numeral K] (x : K) : Restores lenientNumber? (.real x) x :=
  fun _ => by rw [form_real]; rfl

/-- A value with a name is restored by any choice between names of which it has that one. -/
theorem restores_choice {isNothing : Json K → Bool} {names : List (String × α)} {name : String}
    {value : α} (h : names.lookup name = some value) :
    Restores (choice? isNothing names) (.text name) value :=
  fun _ => by rw [form_text]; exact h

theorem restores_list {decode : Json K → Option α} {write : α → Json K} {values : List α}
    (h : ∀ value ∈ values, Restores decode (write value) value) :
    Restores (list? decode) (.array (values.map write)) values := by
  intro sorted
  rw [form_array, list?]
  induction values with
  | nil => rfl
  | cons value rest ih =>
      obtain ⟨hFirst, hRest⟩ := List.forall_mem_cons.1 h
      rw [List.map_cons, List.map_cons, List.mapM_cons, hFirst sorted, ih hRest]
      rfl

/-- Leaving out what cannot be read leaves out nothing that was written. -/
theorem filterMap_form {decode : Json K → Option α} {write : α → Json K} {values : List α}
    (h : ∀ value ∈ values, Restores decode (write value) value) (sorted : Bool) :
    ((values.map write).map (form sorted)).filterMap decode = values := by
  induction values with
  | nil => rfl
  | cons value rest ih =>
      obtain ⟨hFirst, hRest⟩ := List.forall_mem_cons.1 h
      rw [List.map_cons, List.map_cons, List.filterMap_cons, hFirst sorted, ih hRest]

theorem lookup_optional (name other : String) (value : Option (Json K)) :
    (optional name value).lookup other = if other = name then value else none := by
  cases value with
  | none => simp [optional]
  | some value =>
      by_cases hName : other = name
      · simp [optional, hName]
      · simp [optional, hName, List.lookup_cons, beq_eq_false_iff_ne.2 hName]

theorem names_optional (name : String) (value : Option (Json K)) :
    ((optional name value).map Prod.fst).Sublist [name] := by
  cases value with
  | none => exact List.nil_sublist _
  | some value => exact List.Sublist.refl _

theorem forall_mem_optional {name : String} {value : Option (Json K)}
    {p : String × Json K → Prop} :
    (∀ m ∈ optional name value, p m) ↔ ∀ v, value = some v → p (name, v) := by
  cases value <;> simp [optional]

namespace Presents

variable {sorted : Bool} {own inner shown : List (String × Json K)} {names : List String}

/-- A reader that knows some names finds the members with these and leaves the others. -/
theorem recordAndRest (h : Presents sorted (own ++ inner) shown)
    (hOwn : own.map Prod.fst ⊆ names) (hInner : (inner.map Prod.fst).Disjoint names) :
    ∃ r rest, recordAndRest? names shown = some (r, rest) ∧ Presents sorted own r.parts ∧
      Presents sorted inner rest := by
  have hIn : ∀ m ∈ own, m.1 ∈ names := fun m hm => hOwn (List.mem_map_of_mem hm)
  have hOut : ∀ m ∈ inner, m.1 ∉ names := fun m hm => hInner (List.mem_map_of_mem hm)
  have hOwnParts := h.filter names.contains
  have hRest := h.filter fun name => !names.contains name
  have hKnown : ((own ++ inner).filter fun m => names.contains m.1) = own := by
    rw [List.filter_append, List.filter_eq_self.2 (by simpa using hIn),
      List.filter_eq_nil_iff.2 (by simpa using hOut), List.append_nil]
  have hOthers : ((own ++ inner).filter fun m => !names.contains m.1) = inner := by
    rw [List.filter_append, List.filter_eq_nil_iff.2 (by simpa using hIn),
      List.filter_eq_self.2 (by simpa using hOut), List.nil_append]
  rw [hKnown] at hOwnParts
  rw [hOthers] at hRest
  refine ⟨⟨true, _⟩, _, ?_, hOwnParts, hRest⟩
  simp only [recordAndRest?, Record.ofMembers?, if_pos hOwnParts.nodup_shown, hRest.usable_shown]
  rfl

theorem record (h : Presents sorted (own ++ inner) shown)
    (hOwn : own.map Prod.fst ⊆ names) (hInner : (inner.map Prod.fst).Disjoint names) :
    ∃ r, (Json.object shown).record? names = some r ∧ Presents sorted own r.parts := by
  obtain ⟨r, rest, hRead, hParts, -⟩ := h.recordAndRest hOwn hInner
  refine ⟨r, ?_, hParts⟩
  simp only [recordAndRest?, Option.bind_eq_bind, Option.bind_eq_some_iff] at hRead
  obtain ⟨own, hRecord, hOthers⟩ := hRead
  split at hOthers
  · cases hOthers
    exact hRecord
  · cases hOthers

variable {r : Record K} {members : List (String × Json K)} {name : String}
  {decode : Json K → Option α} {written : Json K} {value : α}

theorem required (h : Presents sorted members r.parts)
    (hWritten : members.lookup name = some written) (hRestores : Restores decode written value) :
    r.required name decode = some value := by
  rw [Record.required, h.lookup, hWritten]
  exact hRestores sorted

theorem withDefault_eq {default : α} (h : Presents sorted members r.parts)
    (hWritten : members.lookup name = some written) :
    r.withDefault name default decode = decode (written.form sorted) := by
  rw [Record.withDefault, h.lookup, hWritten]
  rfl

theorem withDefault {default : α} (h : Presents sorted members r.parts)
    (hWritten : members.lookup name = some written) (hRestores : Restores decode written value) :
    r.withDefault name default decode = some value := by
  rw [h.withDefault_eq hWritten, hRestores sorted]

/-- A missing member is read as nothing, and what is written is not taken for nothing. -/
theorem optional {write : α → Json K} {value : Option α} (h : Presents sorted members r.parts)
    (hWritten : members.lookup name = value.map write)
    (hRestores : ∀ a, value = some a → Restores decode (write a) a) (hNull : decode .null = none) :
    r.optional name decode = some value := by
  rw [Record.optional, Record.withDefault, h.lookup, hWritten]
  cases value with
  | none => rfl
  | some a =>
      have hRead := hRestores a rfl sorted
      rw [Option.map_some, Option.map_some]
      cases hForm : (write a).form sorted with
      | null =>
          rw [hForm, hNull] at hRead
          cases hRead
      | _ =>
          rw [hForm] at hRead
          simp [nullable?, hRead]

theorem optionalText {text : Option String} (h : Presents sorted members r.parts)
    (hWritten : members.lookup name = text.map .text) : r.optional name text? = some text :=
  h.optional hWritten (fun value _ => restores_text value) rfl

/-- Where any number will do, what is written counts as one. -/
theorem lenientNumber [Numeral K] {default : K} (h : Presents sorted members r.parts)
    (hWritten : members.lookup name = some written) :
    r.withDefault name default lenientNumber? = some (written.form sorted).lenient := by
  rw [h.withDefault_eq hWritten, lenientNumber?,
    if_pos (h.usable _ ((lookup_eq_some_iff_mem h.nodup).1 hWritten))]

/-- A tag is read beside the other members. -/
theorem tagged {tag? : Json K → Option α} (h : Presents sorted ((name, written) :: inner) shown)
    (hRestores : Restores tag? written value) :
    ∃ rest, tagged? name tag? shown = some (value, rest) ∧ Presents sorted inner rest := by
  have hOthers : (inner.map Prod.fst).Disjoint [name] := by
    have hFirst := (List.nodup_cons.1 h.nodup).1
    rintro other hMem hSame
    rw [List.mem_singleton.1 hSame] at hMem
    exact hFirst hMem
  have hOwn : [(name, written)].map Prod.fst ⊆ [name] := List.Subset.refl _
  have hParted : Presents sorted ([(name, written)] ++ inner) shown := h
  obtain ⟨r, rest, hRead, hParts, hRest⟩ := hParted.recordAndRest hOwn hOthers
  refine ⟨rest, ?_, hRest⟩
  have hTag : r.parts.lookup name = some (written.form sorted) := by
    rw [hParts.lookup]
    simp
  simp [tagged?, hRead, hTag, hRestores sorted]

end Presents

variable [Numeral K]

theorem storable_optional_text (name : String) (text : Option String) (depth : Nat) :
    ∀ m ∈ optional name (text.map .text), IsStorable (K := K) depth m.2 :=
  forall_mem_optional.2 fun v hv => by
    obtain ⟨value, -, rfl⟩ := Option.map_eq_some_iff.1 hv
    exact .text value

/-- A reader that knows all names of an object finds its members in either form. -/
theorem IsStorable.exists_record {depth : Nat} {written : Json K}
    {members : List (String × Json K)} {names : List String} (h : IsStorable depth written)
    (hObject : written = .object members) (hNames : members.map Prod.fst ⊆ names)
    (sorted : Bool) :
    ∃ r, (written.form sorted).record? names = some r ∧ Presents sorted members r.parts := by
  subst hObject
  obtain ⟨shown, hForm, hShown⟩ := h.exists_shown sorted
  rw [← List.append_nil members] at hShown
  rw [hForm]
  exact hShown.record hNames (List.disjoint_nil_left names)

end NoteBoard.Json
