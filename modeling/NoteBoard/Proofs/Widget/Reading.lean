import NoteBoard.Proofs.Json.Finite
import NoteBoard.Proofs.Widget.Codec

/-! What readers make of widgets, whatever was written: settings that are read back as they are. -/
namespace NoteBoard

open Json

variable {K : Type}

namespace Json

theorem mem_of_lookup {members : List (String × Json K)} {name : String} {value : Json K}
    (h : members.lookup name = some value) : (name, value) ∈ members := by
  obtain ⟨before, after, rfl, -⟩ := List.lookup_eq_some_iff.1 h
  exact List.mem_append_right _ List.mem_cons_self

theorem subset_of_recordAndRest? {names : List String} {members rest : List (String × Json K)}
    {r : Record K} (h : recordAndRest? names members = some (r, rest)) :
    r.parts ⊆ members ∧ rest ⊆ members := by
  obtain ⟨own, hOwn, hRest⟩ := Option.bind_eq_some_iff.1 h
  split at hRest
  · cases hRest
    unfold Record.ofMembers? at hOwn
    split at hOwn
    · cases hOwn
      exact ⟨List.filter_sublist.subset, List.filter_sublist.subset⟩
    · cases hOwn
  · cases hRest

theorem subset_of_tagged? {α : Type} {name : String} {tag? : Json K → Option α}
    {members rest : List (String × Json K)} {tag : α}
    (h : tagged? name tag? members = some (tag, rest)) : rest ⊆ members := by
  simp only [tagged?, Option.bind_eq_bind, Option.bind_eq_some_iff, Option.pure_def,
    Option.some.injEq, Prod.mk.injEq] at h
  obtain ⟨⟨r, others⟩, hRecord, _, _, _, _, _, rfl⟩ := h
  exact (subset_of_recordAndRest? hRecord).2

theorem lt_of_nat64? {value : Json K} {n : Nat} (h : value.nat64? = some n) : n < twoTo 64 := by
  obtain ⟨m, hm, rfl⟩ := Option.map_eq_some_iff.1 h
  cases value with
  | integer k =>
      simp only [integer?] at hm
      split at hm
      · cases hm
        omega
      · cases hm
  | _ => cases hm

theorem eq_some_of_nullable? {α : Type} {decode : Json K → Option α} {value : Json K} {a : α}
    (h : nullable? decode value = some (some a)) : decode value = some a := by
  cases value with
  | null => cases h
  | _ => simpa [nullable?] using h

end Json

theorem limitFits_of_optional {r : Record K} {limit : Option Nat}
    (h : r.optional "limit" nat64? = some limit) : LimitFits limit := by
  rintro n rfl
  unfold Record.optional Record.withDefault at h
  split at h
  · exact lt_of_nat64? (eq_some_of_nullable? h)
  · cases h

theorem isNamed_of_withDefault {r : Record K} {g : Grouping}
    (h : r.withDefault "groupBy" .tag (fun value => value.text?.map Grouping.ofText) = some g) :
    g.IsNamed := by
  unfold Record.withDefault at h
  split at h
  · obtain ⟨written, -, rfl⟩ := Option.map_eq_some_iff.1 h
    exact Grouping.isNamed_ofText written
  · cases h
    rw [Grouping.IsNamed]
    decide

theorem number_of_withDefault [Number K] {p : K → Prop} (hWhole : ∀ n, p (Number.ofInt n))
    {r : Record K} {name : String} {default x : K} (hDefault : p default)
    (hParts : ∀ m ∈ r.parts, m.2.AllNumbers p)
    (h : r.withDefault name default number? = some x) : p x := by
  unfold Record.withDefault at h
  split at h
  · next value hFound =>
    have hValue : value.AllNumbers p := hParts _ (mem_of_lookup hFound)
    cases hValue with
    | integer n =>
        cases h
        exact hWhole n
    | real hNumber =>
        cases h
        exact hNumber
    | _ => cases h
  · cases h
    exact hDefault

theorem TaskListSettings.limitFits {members : List (String × Json K)} {c : TaskListSettings}
    (h : ofMembers? members = some c) : LimitFits c.limit := by
  simp only [ofMembers?, Option.bind_eq_bind, Option.bind_eq_some_iff, Option.pure_def,
    Option.some.injEq] at h
  obtain ⟨⟨r, rest⟩, -, _, -, _, -, limit, hLimit, _, -, rfl⟩ := h
  exact limitFits_of_optional hLimit

theorem ChartSettings.areRead {members : List (String × Json K)} {c : ChartSettings}
    (h : ofMembers? members = some c) : LimitFits c.limit ∧ c.grouping.IsNamed := by
  simp only [ofMembers?, Option.bind_eq_bind, Option.bind_eq_some_iff, Option.pure_def,
    Option.some.injEq] at h
  obtain ⟨⟨r, rest⟩, -, _, -, _, -, grouping, hGrouping, limit, hLimit, _, -, _, -, rfl⟩ := h
  exact ⟨limitFits_of_optional hLimit, isNamed_of_withDefault hGrouping⟩

theorem ProgressSettings.target_of_read [Number K] {p : K → Prop}
    (hWhole : ∀ n, p (Number.ofInt n)) (hDefault : p 100) {members : List (String × Json K)}
    {c : ProgressSettings K} (hMembers : ∀ m ∈ members, m.2.AllNumbers p)
    (h : ofMembers? members = some c) : p c.target := by
  simp only [ofMembers?, Option.bind_eq_bind, Option.bind_eq_some_iff, Option.pure_def,
    Option.some.injEq] at h
  obtain ⟨⟨r, rest⟩, hRecord, _, -, _, -, _, -, _, -, target, hTarget, _, -, rfl⟩ := h
  have hParts : ∀ m ∈ r.parts, m.2.AllNumbers p :=
    fun m hm => hMembers m ((subset_of_recordAndRest? hRecord).1 hm)
  exact number_of_withDefault hWhole hDefault hParts hTarget

namespace WidgetSettings

variable [Number K] {members : List (String × Json K)} {s : WidgetSettings K}

theorem areRead_of_read (h : ofMembers? members = some s) : s.AreRead := by
  obtain ⟨⟨type, rest⟩, -, hSettings⟩ := Option.bind_eq_some_iff.1 h
  cases type with
  | taskList =>
      obtain ⟨c, hRead, rfl⟩ := Option.map_eq_some_iff.1 hSettings
      exact TaskListSettings.limitFits hRead
  | stats =>
      obtain ⟨c, -, rfl⟩ := Option.map_eq_some_iff.1 hSettings
      trivial
  | statusBar =>
      obtain ⟨c, -, rfl⟩ := Option.map_eq_some_iff.1 hSettings
      trivial
  | pieChart =>
      obtain ⟨c, hRead, rfl⟩ := Option.map_eq_some_iff.1 hSettings
      exact ChartSettings.areRead hRead
  | lineChart =>
      obtain ⟨c, hRead, rfl⟩ := Option.map_eq_some_iff.1 hSettings
      exact ChartSettings.areRead hRead

theorem numbers_of_read {p : K → Prop} (hWhole : ∀ n, p (Number.ofInt n)) (hDefault : p 100)
    (hMembers : ∀ m ∈ members, m.2.AllNumbers p) (h : ofMembers? members = some s) :
    ∀ x ∈ s.numbers, p x := by
  obtain ⟨⟨type, rest⟩, hTag, hSettings⟩ := Option.bind_eq_some_iff.1 h
  have hRest : ∀ m ∈ rest, m.2.AllNumbers p :=
    fun m hm => hMembers m (subset_of_tagged? hTag hm)
  cases type with
  | statusBar =>
      obtain ⟨c, hRead, rfl⟩ := Option.map_eq_some_iff.1 hSettings
      exact List.forall_mem_singleton.2
        (ProgressSettings.target_of_read hWhole hDefault hRest hRead)
  | _ =>
      -- The other types have no number of their own.
      obtain ⟨c, -, rfl⟩ := Option.map_eq_some_iff.1 hSettings
      exact fun x hx => absurd hx List.not_mem_nil

end WidgetSettings

namespace Widget

variable [Numeral K] {written : Json K} {w : Widget K}

/-- The settings of a widget are read from its members. -/
theorem exists_settings (h : ofJson? written = some w) :
    ∃ members rest, written = .object members ∧ rest ⊆ members ∧
      WidgetSettings.ofMembers? rest = some w.settings := by
  cases written with
  | object members =>
      simp only [ofJson?, Option.bind_eq_bind, Option.bind_eq_some_iff, Option.pure_def,
        Option.some.injEq] at h
      obtain ⟨⟨r, rest⟩, hRecord, _, -, _, -, _, -, _, -, _, -, _, -, _, -, _, -, _, -, settings,
        hSettings, rfl⟩ := h
      exact ⟨members, rest, rfl, (subset_of_recordAndRest? hRecord).2, hSettings⟩
  | _ => cases h

theorem areRead_of_read (h : ofJson? written = some w) : w.settings.AreRead := by
  obtain ⟨_, _, -, -, hSettings⟩ := exists_settings h
  exact WidgetSettings.areRead_of_read hSettings

theorem numbers_of_read {p : K → Prop} (hWhole : ∀ n, p (Number.ofInt n)) (hDefault : p 100)
    (hWritten : written.AllNumbers p) (h : ofJson? written = some w) :
    ∀ x ∈ w.settings.numbers, p x := by
  obtain ⟨members, rest, rfl, hRest, hSettings⟩ := exists_settings h
  cases hWritten with
  | object hMembers =>
      exact WidgetSettings.numbers_of_read hWhole hDefault (fun m hm => hMembers m (hRest hm))
        hSettings

end Widget
end NoteBoard
