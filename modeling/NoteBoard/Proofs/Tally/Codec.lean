import NoteBoard.Proofs.Json.Record
import NoteBoard.Proofs.Text.Listed
import NoteBoard.Tally.Comparison
import NoteBoard.Tally.Series

/-! The parts of a widget's settings as they are stored, and as they are read back. -/
namespace NoteBoard

open Json

variable {K : Type}

theorem Counted.restores_targetName (c : Counted) :
    Restores (K := K) Counted.ofJson? (.text c.targetName) c :=
  restores_choice (by cases c <;> rfl)

theorem Counted.restores_seriesName (c : Counted) :
    Restores (K := K) Counted.ofJson? (.text c.seriesName) c :=
  restores_choice (by cases c <;> rfl)

theorem StampKind.restores (s : StampKind) :
    Restores (K := K) StampKind.ofJson? (.text s.name) s :=
  restores_choice (by cases s <;> rfl)

theorem Baseline.restores (b : Baseline) :
    Restores (K := K) (choice? isNothing Baseline.names) (.text b.name) b :=
  restores_choice (by cases b <;> rfl)

theorem Rate.restores (r : Rate) :
    Restores (K := K) (choice? isNothing Rate.names) (.text r.name) r :=
  restores_choice (by cases r <;> rfl)

theorem DeltaForm.restores (d : DeltaForm) :
    Restores (K := K) (choice? isNothing DeltaForm.names) (.text d.name) d :=
  restores_choice (by cases d <;> rfl)

namespace Grouping

/-- A grouping that has the name it is written with, as those do that were read. -/
def IsNamed (g : Grouping) : Prop :=
  ofText g.text = g

theorem isNamed_ofText (written : String) : (ofText written).IsNamed := by
  have hTrim : ofText (Text.trim written) = ofText written := by simp only [ofText, Text.trim_trim]
  have hCases : ofText written = .tag ∨ ofText written = .folder ∨ ofText written = .file ∨
      ofText written = .field (Text.trim written) := by
    simp only [ofText]
    split_ifs <;> simp
  rcases hCases with h | h | h | h <;> rw [IsNamed, h]
  · decide
  · decide
  · decide
  · show ofText (Text.trim written) = _
    rw [hTrim, h]

/-- A grouping is read as the one with the name that it is written with. -/
theorem restores (g : Grouping) :
    Restores (K := K) (fun value => value.text?.map ofText) (.text g.text) (ofText g.text) :=
  fun _ => by rw [form_text]; rfl

end Grouping

variable [Numeral K]

namespace FieldRule

theorem storable (r : FieldRule) (depth : Nat) : IsStorable (K := K) (depth + 1) r.toJson :=
  .object (by simp) (by simp [IsStorable.text])

theorem restores (r : FieldRule) : Restores (K := K) ofJson? r.toJson r := by
  intro sorted
  obtain ⟨found, hFound, hParts⟩ := (storable (K := K) r 0).exists_record rfl
    (show _ ⊆ ["key", "values"] from List.Subset.refl _) sorted
  have hKey : found.withDefault "key" "" text? = some r.key :=
    hParts.withDefault rfl (restores_text _)
  have hValues : found.withDefault "values" "" text? = some r.values :=
    hParts.withDefault rfl (restores_text _)
  simp [ofJson?, hFound, hKey, hValues]

end FieldRule

namespace Filter

theorem storable (f : Filter) (depth : Nat) : IsStorable (K := K) (depth + 3) f.toJson := by
  have hRules : IsStorable (K := K) (depth + 2) (.array (f.rules.map FieldRule.toJson)) :=
    .array (List.forall_mem_map.2 fun r _ => r.storable depth)
  exact .object (by simp) (by simp [IsStorable.text, hRules])

theorem restores (f : Filter) : Restores (K := K) ofJson? f.toJson f := by
  intro sorted
  obtain ⟨found, hFound, hParts⟩ := (storable (K := K) f 0).exists_record rfl
    (show _ ⊆ ["tags", "folders", "yamlFilters"] from List.Subset.refl _) sorted
  have hTags : found.withDefault "tags" "" text? = some f.tags :=
    hParts.withDefault rfl (restores_text _)
  have hFolders : found.withDefault "folders" "" text? = some f.folders :=
    hParts.withDefault rfl (restores_text _)
  have hRules : found.withDefault "yamlFilters" [] (list? FieldRule.ofJson?) = some f.rules :=
    hParts.withDefault rfl (restores_list fun r _ => r.restores)
  simp [ofJson?, hFound, hTags, hFolders, hRules]

end Filter

namespace Timeframe

omit [Numeral K] in
theorem names_sublist (f : Timeframe) :
    ((("preset", .text f.preset) :: Json.optional "start" (f.start.map .text) ++
      Json.optional "end" (f.finish.map .text) : List (String × Json K)).map Prod.fst).Sublist
        ["preset", "start", "end"] := by
  simp only [List.map_append, List.map_cons]
  exact ((List.Sublist.refl ["preset"]).append (names_optional _ _)).append (names_optional _ _)

theorem storable (f : Timeframe) (depth : Nat) : IsStorable (K := K) (depth + 1) f.toJson :=
  .object (f.names_sublist.nodup (by decide)) <| List.forall_mem_append.2
    ⟨List.forall_mem_cons.2 ⟨.text _, storable_optional_text _ _ depth⟩,
      storable_optional_text _ _ depth⟩

theorem restores (f : Timeframe) : Restores (K := K) ofJson? f.toJson f := by
  intro sorted
  obtain ⟨found, hFound, hParts⟩ :=
    (storable (K := K) f 0).exists_record rfl f.names_sublist.subset sorted
  have hPreset : found.withDefault "preset" Preset.allId text? = some f.preset :=
    hParts.withDefault rfl (restores_text _)
  have hStart : found.optional "start" text? = some f.start :=
    hParts.optionalText (by simp [List.lookup_append, List.lookup_cons, lookup_optional])
  have hFinish : found.optional "end" text? = some f.finish :=
    hParts.optionalText (by simp [List.lookup_append, List.lookup_cons, lookup_optional])
  simp [ofJson?, hFound, hPreset, hStart, hFinish]

end Timeframe

namespace Series

theorem storable (s : Series) (depth : Nat) : IsStorable (K := K) (depth + 4) s.toJson :=
  .object (by simp) (by simp [IsStorable.text, s.filter.storable depth, s.timeframe.storable])

theorem restores (s : Series) : Restores (K := K) ofJson? s.toJson s := by
  intro sorted
  obtain ⟨found, hFound, hParts⟩ := (storable (K := K) s 0).exists_record rfl
    (show _ ⊆ ["id", "label", "filter", "countMode", "timeField", "timeRange"] from
      List.Subset.refl _) sorted
  have hId : found.withDefault "id" "" text? = some s.id :=
    hParts.withDefault rfl (restores_text _)
  have hLabel : found.withDefault "label" "" text? = some s.label :=
    hParts.withDefault rfl (restores_text _)
  have hFilter : found.withDefault "filter" .everything Filter.ofJson? = some s.filter :=
    hParts.withDefault rfl s.filter.restores
  have hCounted : found.withDefault "countMode" .notes Counted.ofJson? = some s.counted :=
    hParts.withDefault rfl s.counted.restores_seriesName
  have hStamp : found.withDefault "timeField" .created StampKind.ofJson? = some s.stamp :=
    hParts.withDefault rfl s.stamp.restores
  have hTimeframe : found.withDefault "timeRange" .always Timeframe.ofJson? = some s.timeframe :=
    hParts.withDefault rfl s.timeframe.restores
  simp [ofJson?, hFound, hId, hLabel, hFilter, hCounted, hStamp, hTimeframe]

end Series

end NoteBoard
