import Mathlib.Data.List.Perm.Basic
import NoteBoard.Proofs.Json.Storable

/-! The two forms in which readers see a stored value: as it was written, and in canonical form. -/
namespace NoteBoard.Json

variable {K : Type}

theorem canonicalItems_eq (items : List (Json K)) : canonicalItems items = items.map canonical := by
  induction items with
  | nil => rfl
  | cons item rest ih => rw [canonicalItems, ih, List.map_cons]

/-- A member with a new name is one more member. -/
theorem insertMember_perm {name : String} (value : Json K) {sorted : List (String × Json K)}
    (h : name ∉ sorted.map Prod.fst) :
    (insertMember name value sorted).Perm ((name, value) :: sorted) := by
  induction sorted with
  | nil => exact List.Perm.refl _
  | cons m rest ih =>
      rw [List.map_cons, List.mem_cons, not_or] at h
      obtain ⟨hFirst, hRest⟩ := h
      rw [insertMember.eq_def]
      dsimp only
      rw [if_neg hFirst]
      split
      · exact List.Perm.refl _
      · exact ((ih hRest).cons m).trans (List.Perm.swap _ _ _)

theorem canonicalMembers_perm (members sorted : List (String × Json K))
    (h : ((members ++ sorted).map Prod.fst).Nodup) :
    (canonicalMembers members sorted).Perm
      (members.map (fun m => (m.1, m.2.canonical)) ++ sorted) := by
  induction members generalizing sorted with
  | nil => exact List.Perm.refl _
  | cons m rest ih =>
      -- One more member is sorted in, and the names still to come are not among the sorted ones.
      obtain ⟨name, value⟩ := m
      rw [List.cons_append, List.map_cons, List.nodup_cons, List.map_append, List.mem_append,
        not_or] at h
      obtain ⟨⟨hRest, hSorted⟩, hNodup⟩ := h
      have hInsert := insertMember_perm value.canonical hSorted
      have hNames : ((rest ++ insertMember name value.canonical sorted).map Prod.fst).Nodup := by
        have hPerm := ((hInsert.append_left rest).trans List.perm_middle).map Prod.fst
        rw [hPerm.nodup_iff, List.map_cons, List.nodup_cons, List.map_append, List.mem_append]
        exact ⟨by simp [hRest, hSorted], hNodup⟩
      exact (ih _ hNames).trans ((hInsert.append_left _).trans List.perm_middle)

theorem usable_array {items : List (Json K)} :
    usable (.array items) = true ↔ ∀ item ∈ items, item.usable = true := by
  rw [usable]
  induction items with
  | nil => simp [itemsUsable]
  | cons item rest ih => simp [itemsUsable, ih]

theorem membersUsable_iff {members : List (String × Json K)} :
    membersUsable members = true ↔ ∀ m ∈ members, m.2.usable = true := by
  induction members with
  | nil => simp [membersUsable]
  | cons m rest ih => simp [membersUsable, ih]

/-- Where names are different, the first member with a name is the only one. -/
theorem lookup_eq_some_iff_mem {members : List (String × Json K)} {name : String} {value : Json K}
    (h : (members.map Prod.fst).Nodup) :
    members.lookup name = some value ↔ (name, value) ∈ members := by
  induction members with
  | nil => simp
  | cons m rest ih =>
      obtain ⟨other, known⟩ := m
      rw [List.map_cons, List.nodup_cons] at h
      obtain ⟨hOther, hRest⟩ := h
      by_cases hName : name = other
      · subst hName
        have hOnly : (name, value) ∉ rest := fun hMem =>
          hOther (List.mem_map.2 ⟨_, hMem, rfl⟩)
        simp [hOnly, eq_comm]
      · have hKey : (name == other) = false := beq_eq_false_iff_ne.2 hName
        rw [List.lookup_cons, hKey, List.mem_cons]
        simp [ih hRest, hName]

/-- A value as it was written, or with the members of its objects sorted. -/
def form (sorted : Bool) (value : Json K) : Json K :=
  if sorted then value.canonical else value

section Form

variable (sorted : Bool)

@[simp] theorem form_null : form sorted (.null : Json K) = .null := by cases sorted <;> rfl

@[simp] theorem form_bool (value : Bool) : form sorted (.bool value : Json K) = .bool value := by
  cases sorted <;> rfl

@[simp] theorem form_integer (n : Int) : form sorted (.integer n : Json K) = .integer n := by
  cases sorted <;> rfl

@[simp] theorem form_real (x : K) : form sorted (.real x) = .real x := by cases sorted <;> rfl

@[simp] theorem form_text (text : String) : form sorted (.text text : Json K) = .text text := by
  cases sorted <;> rfl

@[simp] theorem form_array (items : List (Json K)) :
    form sorted (.array items) = .array (items.map (form sorted)) := by
  cases sorted with
  | false => exact congrArg Json.array (List.map_id items).symm
  | true => exact congrArg Json.array (canonicalItems_eq items)

/-- The members of an object in some order, each in its form. All of them can be held. -/
structure Presents (members shown : List (String × Json K)) : Prop where
  perm : shown.Perm (members.map fun m => (m.1, m.2.form sorted))
  nodup : (members.map Prod.fst).Nodup
  usable : ∀ m ∈ members, (m.2.form sorted).usable = true

theorem exists_form_object {members : List (String × Json K)}
    (hNodup : (members.map Prod.fst).Nodup)
    (hUsable : ∀ m ∈ members, (m.2.form sorted).usable = true) :
    ∃ shown, form sorted (.object members) = .object shown ∧ Presents sorted members shown := by
  cases sorted with
  | false => exact ⟨members, rfl, by simp [form], hNodup, hUsable⟩
  | true =>
      have hPerm := canonicalMembers_perm members [] (by simpa using hNodup)
      exact ⟨_, rfl, by simpa [form] using hPerm, hNodup, hUsable⟩

end Form

namespace Presents

variable {sorted : Bool} {members shown : List (String × Json K)}

theorem map_fst (h : Presents sorted members shown) :
    (shown.map Prod.fst).Perm (members.map Prod.fst) := by
  have hNames := h.perm.map Prod.fst
  rwa [List.map_map] at hNames

theorem nodup_shown (h : Presents sorted members shown) : (shown.map Prod.fst).Nodup :=
  h.map_fst.nodup_iff.2 h.nodup

theorem usable_shown (h : Presents sorted members shown) : membersUsable shown = true := by
  rw [membersUsable_iff]
  intro m hm
  obtain ⟨source, hSource, rfl⟩ := List.mem_map.1 (h.perm.mem_iff.1 hm)
  exact h.usable source hSource

/-- The members with some names. -/
theorem filter (h : Presents sorted members shown) (p : String → Bool) :
    Presents sorted (members.filter fun m => p m.1) (shown.filter fun m => p m.1) where
  perm := by
    have hFilter := h.perm.filter fun m => p m.1
    rwa [List.filter_map] at hFilter
  nodup := (List.filter_sublist.map Prod.fst).nodup h.nodup
  usable := fun m hm => h.usable m (List.mem_of_mem_filter hm)

/-- A member is found in any order. -/
theorem lookup (h : Presents sorted members shown) (name : String) :
    shown.lookup name = (members.lookup name).map (form sorted) := by
  refine Option.ext fun value => ?_
  rw [lookup_eq_some_iff_mem h.nodup_shown, h.perm.mem_iff, Option.map_eq_some_iff, List.mem_map]
  constructor
  · rintro ⟨⟨_, source⟩, hSource, hSame⟩
    obtain ⟨rfl, rfl⟩ := Prod.mk.inj hSame
    exact ⟨source, (lookup_eq_some_iff_mem h.nodup).2 hSource, rfl⟩
  · rintro ⟨source, hSource, rfl⟩
    exact ⟨(name, source), (lookup_eq_some_iff_mem h.nodup).1 hSource, rfl⟩

end Presents

variable [Numeral K]

namespace IsStorable

theorem usable_form {depth : Nat} {value : Json K} (h : IsStorable depth value) (sorted : Bool) :
    (value.form sorted).usable = true := by
  induction h with
  | array _ ih =>
      rw [form_array, usable_array]
      exact List.forall_mem_map.2 ih
  | object hNames _ ih =>
      obtain ⟨shown, hForm, hPresents⟩ := exists_form_object sorted hNames ih
      rw [hForm, usable]
      exact hPresents.usable_shown
  | _ => simp [usable]

/-- The members of an object that can be stored, as a reader finds them. -/
theorem exists_shown {depth : Nat} {members : List (String × Json K)}
    (h : IsStorable depth (.object members)) (sorted : Bool) :
    ∃ shown, form sorted (.object members) = .object shown ∧ Presents sorted members shown := by
  cases h with
  | object hNames hMembers =>
      exact exists_form_object sorted hNames fun m hm => (hMembers m hm).usable_form sorted

/-- A value that can be stored is read back from its text in canonical form. -/
theorem readCanonical?_pretty {depth : Nat} {value : Json K} (h : IsStorable depth value)
    (hDepth : depth ≤ depthLimit) : readCanonical? value.pretty = some (value.form true) := by
  have hUsable : value.usable = true := h.usable_form false
  simp [readCanonical?, h.read?_pretty hDepth, hUsable, form]

end IsStorable
end NoteBoard.Json
