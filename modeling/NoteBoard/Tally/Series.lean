import NoteBoard.Tally.Count
import NoteBoard.Tally.Grouping

/-!
Series: counts with a name, each with a filter and a time window of its own.
-/

namespace NoteBoard

/-- One series of a chart. -/
structure Series where
  id : String
  label : String
  filter : Filter
  counted : Counted
  stamp : StampKind
  timeframe : Timeframe
deriving DecidableEq

namespace Series

/-- A series of all notes that a filter takes, of all time. -/
def ofFilter (id label : String) (f : Filter) : Series :=
  ⟨id, label, f, .notes, .created, .always⟩

/-- The label to show, or the position of the series where there is none. -/
def shownLabel (s : Series) (index : Nat) : String :=
  let label := Text.trim s.label
  if label.isEmpty then "Series " ++ toString (index + 1) else label

variable {σ K : Type}

/-- The count of each series. -/
def counts [TimeZone] [Provider σ K] [Numeral K] (source : σ) (presets : List Preset)
    (now : Instant) (series : List Series) : List (Amount K) :=
  series.zipIdx.map fun (s, index) =>
    let count := Count.take source s.counted [s.filter] s.stamp (s.timeframe.resolve presets now)
    ⟨s.shownLabel index, Number.ofNat count.count⟩

def toJson (s : Series) : Json K :=
  .object [("id", .text s.id), ("label", .text s.label), ("filter", s.filter.toJson),
    ("countMode", .text s.counted.seriesName), ("timeField", .text s.stamp.name),
    ("timeRange", s.timeframe.toJson)]

def ofJson? (value : Json K) : Option Series := do
  let r ← value.record? ["id", "label", "filter", "countMode", "timeField", "timeRange"]
  return ⟨← r.withDefault "id" "" Json.text?, ← r.withDefault "label" "" Json.text?,
    ← r.withDefault "filter" .everything Filter.ofJson?,
    ← r.withDefault "countMode" .notes Counted.ofJson?,
    ← r.withDefault "timeField" .created StampKind.ofJson?,
    ← r.withDefault "timeRange" .always Timeframe.ofJson?⟩

end Series
end NoteBoard
