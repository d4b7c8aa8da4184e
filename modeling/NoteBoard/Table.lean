/-!
Tables: values by name, in the order in which the names were first set.
-/

namespace NoteBoard

abbrev Table (α : Type) := List (String × α)

namespace Table

variable {α : Type}

/-- Sets the value of a name, at the end if the name is new. -/
def set (t : Table α) (name : String) (value : α) : Table α :=
  match t with
  | [] => [(name, value)]
  | (other, known) :: rest =>
    if other = name then (name, value) :: rest else (other, known) :: Table.set rest name value

/-- Without a name. -/
def erase (t : Table α) (name : String) : Table α :=
  t.filter fun entry => entry.1 ≠ name

/-- The names, in order. -/
def names (t : Table α) : List String :=
  t.map Prod.fst

/-- The same names with other values. -/
def mapValues {β : Type} (t : Table α) (f : α → β) : Table β :=
  t.map fun entry => (entry.1, f entry.2)

theorem lookup_set (t : Table α) (name other : String) (value : α) :
    (t.set name value).lookup other = if other = name then some value else t.lookup other := by
  induction t with
  | nil =>
    by_cases h : other = name
    · simp [set, h]
    · simp [set, h, List.lookup_cons, beq_eq_false_iff_ne.2 h]
  | cons entry rest ih =>
    obtain ⟨key, known⟩ := entry
    simp only [set]
    split
    · next h => subst h; simp only [List.lookup_cons]; split <;> simp_all
    · next h => simp only [List.lookup_cons, ih]; grind

theorem set_set (t : Table α) (name : String) (value value' : α) :
    (t.set name value).set name value' = t.set name value' := by
  induction t with
  | nil => simp [set]
  | cons entry rest ih =>
    obtain ⟨key, known⟩ := entry
    by_cases h : key = name
    · simp [set, h]
    · simp [set, h, ih]

/-- A name that is there keeps its place, and all other names keep their values. -/
theorem set_append_cons {before : Table α} {name : String}
    (h : name ∉ before.names) (known value : α) (after : Table α) :
    Table.set (before ++ (name, known) :: after) name value = before ++ (name, value) :: after := by
  induction before with
  | nil => simp [set]
  | cons entry rest ih =>
    obtain ⟨key, other⟩ := entry
    obtain ⟨hKey, hRest⟩ := not_or.1 (mt List.mem_cons.2 h)
    simp [set, Ne.symm hKey, ih hRest]

theorem lookup_erase_of_ne (t : Table α) {name other : String} (h : other ≠ name) :
    (t.erase name).lookup other = t.lookup other := by
  induction t with
  | nil => rfl
  | cons entry rest ih =>
    obtain ⟨key, known⟩ := entry
    by_cases hKey : key = name
    · have hOther : (other == key) = false := beq_eq_false_iff_ne.2 (hKey ▸ h)
      simp only [erase, ne_eq, decide_not, List.filter_cons, hKey, decide_true, Bool.not_true,
        Bool.false_eq_true, ↓reduceIte, List.lookup_cons] at ih ⊢
      rw [ih, ← hKey, hOther]
    · simp only [erase, ne_eq, decide_not, List.filter_cons, hKey, decide_false, Bool.not_false,
        ↓reduceIte, List.lookup_cons] at ih ⊢
      rw [ih]

theorem lookup_erase_self (t : Table α) (name : String) : (t.erase name).lookup name = none := by
  induction t with
  | nil => rfl
  | cons entry rest ih =>
    obtain ⟨key, known⟩ := entry
    by_cases h : key = name
    · simpa [erase, h] using ih
    · have h' : (name == key) = false := by simpa using fun e : name = key => h e.symm
      simp only [erase, ne_eq, decide_not, List.filter_cons, h, decide_false, Bool.not_false,
        ↓reduceIte, List.lookup_cons, h'] at ih ⊢
      exact ih

theorem lookup_erase (t : Table α) (name other : String) :
    (t.erase name).lookup other = if other = name then none else t.lookup other := by
  split
  · next h => rw [h, lookup_erase_self]
  · next h => exact lookup_erase_of_ne t h

theorem mem_names_iff (t : Table α) (name : String) :
    name ∈ t.names ↔ (t.lookup name).isSome = true := by
  induction t with
  | nil => simp [names]
  | cons entry rest ih =>
    obtain ⟨key, known⟩ := entry
    rw [names, List.map_cons, List.mem_cons, List.lookup_cons]
    by_cases h : name = key
    · simp [h]
    · rw [beq_eq_false_iff_ne.2 h, or_iff_right h]
      exact ih

theorem mem_names_set (t : Table α) (name other : String) (value : α) :
    other ∈ (t.set name value).names ↔ other = name ∨ other ∈ t.names := by
  rw [mem_names_iff, lookup_set, mem_names_iff]
  split
  · next h => simp [h]
  · next h => simp [h]

theorem mem_names_foldl_set (t : Table α) (entries : List (String × α)) (name : String) :
    name ∈ (entries.foldl (fun t entry => t.set entry.1 entry.2) t).names ↔
      name ∈ t.names ∨ name ∈ entries.map Prod.fst := by
  induction entries generalizing t with
  | nil => simp
  | cons entry rest ih =>
    rw [List.foldl_cons, ih, mem_names_set, List.map_cons, List.mem_cons, @or_comm (name = _),
      or_assoc]

theorem erase_of_lookup_eq_none {t : Table α} {name : String} (h : t.lookup name = none) :
    t.erase name = t := by
  have hNot : name ∉ t.names := by
    rw [mem_names_iff, h]
    exact Bool.false_ne_true
  refine List.filter_eq_self.2 fun entry hEntry => decide_eq_true fun hName => hNot ?_
  exact hName ▸ List.mem_map_of_mem hEntry

theorem names_erase (t : Table α) (name : String) :
    (t.erase name).names = t.names.filter (· ≠ name) := by
  rw [names, names, erase, List.filter_map]
  rfl

theorem mem_names_erase (t : Table α) (name other : String) :
    other ∈ (t.erase name).names ↔ other ≠ name ∧ other ∈ t.names := by
  rw [names_erase, List.mem_filter, decide_eq_true_iff, and_comm]

theorem nodup_names_set {t : Table α} (h : t.names.Nodup) (name : String) (value : α) :
    (t.set name value).names.Nodup := by
  induction t with
  | nil => simp [set, names]
  | cons entry rest ih =>
    obtain ⟨key, known⟩ := entry
    obtain ⟨hKey, hRest⟩ := List.nodup_cons.1 h
    simp only [set]
    split
    · next hSame => exact hSame ▸ h
    · next hOther =>
      refine List.nodup_cons.2 ⟨?_, ih hRest⟩
      intro hMem
      rcases (mem_names_set rest name key value).1 hMem with hNew | hOld
      · exact hOther hNew
      · exact hKey hOld

theorem nodup_names_erase {t : Table α} (h : t.names.Nodup) (name : String) :
    (t.erase name).names.Nodup := by
  rw [names_erase]
  exact h.filter _

section MapValues

variable {β : Type} (t : Table α) (f : α → β) (name : String)

theorem lookup_mapValues : (t.mapValues f).lookup name = (t.lookup name).map f := by
  induction t with
  | nil => rfl
  | cons entry rest ih =>
    rw [mapValues, List.map_cons, List.lookup_cons, List.lookup_cons]
    cases name == entry.1 with
    | true => rfl
    | false => exact ih

theorem mapValues_set (value : α) :
    (t.set name value).mapValues f = (t.mapValues f).set name (f value) := by
  induction t with
  | nil => rfl
  | cons entry rest ih =>
    by_cases h : entry.1 = name
    · simp [set, mapValues, h]
    · simpa [set, mapValues, h] using ih

theorem mapValues_erase : (t.erase name).mapValues f = (t.mapValues f).erase name := by
  rw [mapValues, mapValues, erase, erase, List.filter_map]
  rfl

end MapValues

end Table
end NoteBoard
