import Mathlib.Data.List.Nodup
import NoteBoard.Layout.Document
import NoteBoard.Number.Exact

/-! The forgiving reader beside the strict one. On a bare layout it does what the strict reader does
once the widgets that cannot be read are out of the way; the measures are read alike, however they
are written. A wrapped layout is read as the bare one. -/
namespace NoteBoard

namespace Json

variable {K : Type} {name : String} {value : Json K} {members shown : List (String × Json K)}
  {names : List String}

theorem lookup_filter {p : String → Bool} (h : p name = true)
    (members : List (String × Json K)) :
    (members.filter fun m => p m.1).lookup name = members.lookup name := by
  induction members with
  | nil => rfl
  | cons m rest ih =>
      obtain ⟨other, value⟩ := m
      by_cases hName : name = other
      · subst hName
        simp [h]
      · have hOther : (name == other) = false := beq_eq_false_iff_ne.2 hName
        cases hKept : p other <;> simp [hKept, List.lookup_cons, hOther, ih]

/-- The members are those of another object, but for one that stands in place of all with its
name. -/
structure Replaces (name : String) (value : Json K) (members shown : List (String × Json K)) :
    Prop where
  own : (shown.filter fun m => m.1 == name) = [(name, value)]
  others : (shown.filter fun m => m.1 != name) = members.filter fun m => m.1 != name

namespace Replaces

theorem lookup_own (h : Replaces name value members shown) : shown.lookup name = some value := by
  rw [← lookup_filter (p := (· == name)) (beq_self_eq_true name), h.own]
  simp

theorem lookup_other (h : Replaces name value members shown) {other : String}
    (hOther : other ≠ name) : shown.lookup other = members.lookup other := by
  have hKept : (other != name) = true := bne_iff_ne.2 hOther
  rw [← lookup_filter (p := (· != name)) hKept, h.others, lookup_filter (p := (· != name)) hKept]

theorem filter_others (h : Replaces name value members shown) (hName : name ∉ names) :
    (shown.filter fun m => names.contains m.1) = members.filter fun m => names.contains m.1 := by
  have hOthers (members : List (String × Json K)) :
      (members.filter fun m => names.contains m.1) =
        (members.filter fun m => m.1 != name).filter fun m => names.contains m.1 := by
    rw [List.filter_filter]
    refine List.filter_congr fun m _ => ?_
    by_cases hSame : m.1 = name <;> simp [hSame, hName]
  rw [hOthers shown, h.others, ← hOthers members]

/-- A reader that knows one name more finds one member more. -/
theorem filter_perm (h : Replaces name value members shown) (hName : name ∉ names) :
    (shown.filter fun m => (names ++ [name]).contains m.1).Perm
      ((name, value) :: members.filter fun m => names.contains m.1) := by
  have hOwn : ((shown.filter fun m => (names ++ [name]).contains m.1).filter
      fun m => m.1 == name) = [(name, value)] := by
    rw [List.filter_filter, ← h.own]
    refine List.filter_congr fun m _ => ?_
    by_cases hSame : m.1 = name <;> simp [hSame]
  have hOthers : ((shown.filter fun m => (names ++ [name]).contains m.1).filter
      fun m => !(m.1 == name)) = members.filter fun m => names.contains m.1 := by
    rw [List.filter_filter, ← h.filter_others hName]
    refine List.filter_congr fun m _ => ?_
    by_cases hSame : m.1 = name <;> simp [hSame, hName]
  have hSplit := List.filter_append_perm (fun m => m.1 == name)
    (shown.filter fun m => (names ++ [name]).contains m.1)
  rw [hOwn, hOthers] at hSplit
  exact hSplit.symm

/-- It refuses the object for the same repeated names and finds the same members with the other
names. -/
theorem record?_cases (h : Replaces name value members shown) (hName : name ∉ names) :
    (object members).record? names = none ∧ (object shown).record? (names ++ [name]) = none ∨
      ∃ r r', (object members).record? names = some r ∧
        (object shown).record? (names ++ [name]) = some r' ∧
        r'.parts.lookup name = some value ∧
        ∀ other ∈ names, r'.parts.lookup other = r.parts.lookup other := by
  have hNodup : ((shown.filter fun m => (names ++ [name]).contains m.1).map Prod.fst).Nodup ↔
      ((members.filter fun m => names.contains m.1).map Prod.fst).Nodup := by
    rw [((h.filter_perm hName).map Prod.fst).nodup_iff, List.map_cons, List.nodup_cons]
    refine and_iff_right fun hMem => ?_
    obtain ⟨m, hm, rfl⟩ := List.mem_map.1 hMem
    exact hName (by simpa using (List.mem_filter.1 hm).2)
  simp only [record?, Record.ofMembers?, hNodup]
  split
  · refine .inr ⟨_, _, rfl, rfl, ?_, fun other hOther => ?_⟩
    · rw [lookup_filter (p := (names ++ [name]).contains) (by simp), h.lookup_own]
    · rw [lookup_filter (p := (names ++ [name]).contains) (by simp [hOther]),
        lookup_filter (p := names.contains) (by simp [hOther]),
        h.lookup_other (ne_of_mem_of_not_mem hOther hName)]
  · exact .inl ⟨rfl, rfl⟩

end Replaces

/-- The items that can be read on their own are read as a list of what they are on their own. -/
theorem mapM_filter_isSome {α : Type} (item? : Json K → Option α) (items : List (Json K)) :
    (items.filter fun item => (item? item).isSome).mapM item? = some (items.filterMap item?) := by
  induction items with
  | nil => rfl
  | cons item rest ih =>
      cases hItem : item? item with
      | none => simpa [hItem] using ih
      | some a => simp [hItem, ih]

end Json

open Json

namespace Layout

variable {K : Type} [Numeral K] {members shown : List (String × Json K)}

/-- The items of a member that can be read as widgets; none if it is no array. -/
def readableWidgets : Option (Json K) → List (Json K)
  | some (.array items) => items.filter fun item => (Widget.ofJson? item).isSome
  | _ => []

/-- A document of the object of a layout: the bare object, or one in which it stands with the
version. -/
def IsDocument (members : List (String × Json K)) (document : Json K) : Prop :=
  document = .object members ∨ document.member? "schemaVersion" = some (.integer documentVersion) ∧
    document.member? "layout" = some (.object members)

/-- The forgiving reader has the widgets of the items that can be read, and the measures that the
members with their names come to. -/
theorem exists_widgets (members : List (String × Json K)) : ∃ widgets,
    list? Widget.ofJson? (.array (readableWidgets (members.lookup "widgets"))) = some widgets ∧
      (ofLenientObject (.object members)).toOption =
        ((object members).record? ["columns", "rowHeight", "gap", "unit"]).bind fun r =>
          ofRecord? r widgets := by
  refine ⟨match members.lookup "widgets" with
    | some (.array items) => items.filterMap Widget.ofJson?
    | _ => [], ?_, ?_⟩
  · cases members.lookup "widgets" with
    | none => rfl
    | some value =>
        cases value with
        | array items => exact mapM_filter_isSome Widget.ofJson? items
        | _ => rfl
  · simp only [ofLenientObject]
    split
    · next hHeader => exact hHeader.symm
    · next hHeader => exact hHeader.symm

/-- The measures come from the members with their names. -/
theorem ofRecord?_congr {r r' : Record K}
    (h : ∀ name ∈ ["columns", "rowHeight", "gap", "unit"],
      r'.parts.lookup name = r.parts.lookup name) (widgets : List (Widget K)) :
    ofRecord? r' widgets = ofRecord? r widgets := by
  simp only [List.forall_mem_cons] at h
  obtain ⟨hColumns, hRowHeight, hGap, hUnit, -⟩ := h
  simp only [ofRecord?, Record.withDefault, hColumns, hRowHeight, hGap, hUnit]

/-- Whatever the members are, the forgiving reader takes the object as the strict one takes the
object with the widgets that can be read. -/
theorem ofLenientObject_toOption (h : Replaces "widgets"
      (.array (readableWidgets (members.lookup "widgets"))) members shown) :
    (ofLenientObject (.object members)).toOption = ofJson? (.object shown) := by
  obtain ⟨widgets, hWidgets, hForgiving⟩ := exists_widgets members
  have hName : "widgets" ∉ ["columns", "rowHeight", "gap", "unit"] := by decide
  have hRecords := h.record?_cases hName
  simp only [List.cons_append, List.nil_append] at hRecords
  rw [hForgiving, ofJson?]
  obtain ⟨hNone, hNone'⟩ | ⟨r, r', hRecord, hRecord', hOwn, hOthers⟩ := hRecords
  · rw [hNone, hNone']
    rfl
  · have hRead : r'.withDefault "widgets" [] (list? Widget.ofJson?) = some widgets := by
      rw [Record.withDefault, hOwn]
      exact hWidgets
    simp only [hRecord, hRecord', Option.bind_eq_bind, Option.bind_some, hRead,
      ofRecord?_congr hOthers]

/-- Bare or wrapped, a layout is read alike: without error exactly where the strict reader takes the
object with the widgets that can be read, and then to the same layout. -/
theorem document_readable (hBare : (object members).member? "schemaVersion" = none)
    (hShown : Replaces "widgets" (.array (readableWidgets (members.lookup "widgets")))
      members shown) {document : Json K} (hDocument : IsDocument members document) :
    ofLenientJson document = ofLenientJson (.object members) ∧
      (ofLenientJson document).toOption = ofJson? (.object shown) ∧
      ∀ text, readCanonical? text = some document →
        (ofText text).toOption = ofJson? (.object shown) := by
  have hObject : ofLenientJson (.object members) = ofLenientObject (.object members) := by
    rw [ofLenientJson, hBare]
  have hSame : ofLenientJson document = ofLenientJson (.object members) := by
    obtain rfl | ⟨hVersion, hLayout⟩ := hDocument
    · rfl
    · rw [hObject, ofLenientJson, hVersion, hLayout]
      rfl
  have hStrict : (ofLenientJson document).toOption = ofJson? (.object shown) := by
    rw [hSame, hObject, ofLenientObject_toOption hShown]
  refine ⟨hSame, hStrict, fun text hText => ?_⟩
  rw [ofText, hText]
  exact hStrict

/-- Measures that are no numbers, beside certain widgets. -/
def unmeasured (widgets : List (Json Exact)) : List (String × Json Exact) :=
  [("columns", .text " 7.9 "), ("gap", .bool true), ("unit", .text "px"),
    ("widgets", .array widgets)]

/-- An item that is read as a widget. -/
def stats : Json Exact := .object [("id", .text "a"), ("type", .text "stats")]

/-- An item that has no type of a widget. -/
def clock : Json Exact := .object [("id", .text "b"), ("type", .text "clock")]

/-- A wrapped layout with three items, of which the second is a widget. -/
def unmeasuredDocument : Json Exact :=
  .object [("schemaVersion", .integer 1),
    ("layout", .object (unmeasured [.integer 42, stats, clock]))]

theorem unmeasured_readable : ∃ l : Layout Exact,
    ofLenientJson unmeasuredDocument = .ok l ∧
      ofLenientJson (.object (unmeasured [.integer 42, stats, clock])) = .ok l ∧
      ofJson? (.object (unmeasured [stats])) = some l ∧
      l.columns = 7 ∧ l.unit = .pixels ∧
      l.widgets.map (fun w => (w.id, w.type)) = [("a", .stats)] := by
  have hNumber : (Widget.ofJson? (.integer 42 : Json Exact)).isSome = false := by decide +kernel
  have hStats : (Widget.ofJson? stats).isSome = true := by decide +kernel
  have hClock : (Widget.ofJson? clock).isSome = false := by decide +kernel
  have hItems : (unmeasured [.integer 42, stats, clock]).lookup "widgets" =
      some (.array [.integer 42, stats, clock]) := rfl
  have hReadable : readableWidgets ((unmeasured [.integer 42, stats, clock]).lookup "widgets") =
      [stats] := by
    simp [hItems, readableWidgets, hNumber, hStats, hClock]
  have hShown : Replaces "widgets" (.array [stats]) (unmeasured [.integer 42, stats, clock])
      (unmeasured [stats]) := ⟨by simp [unmeasured], by simp [unmeasured]⟩
  have hDocument : IsDocument (unmeasured [.integer 42, stats, clock]) unmeasuredDocument :=
    .inr ⟨rfl, rfl⟩
  obtain ⟨hSame, hStrict, -⟩ := document_readable rfl (hReadable ▸ hShown) hDocument
  have hRead : (ofJson? (.object (unmeasured [stats]))).map (fun l =>
      (l.columns, l.unit, l.widgets.map fun w => (w.id, w.type))) =
        some (7, .pixels, [("a", .stats)]) := by decide +kernel
  obtain ⟨l, hLayout, hParts⟩ := Option.map_eq_some_iff.1 hRead
  obtain ⟨hColumns, hUnit, hWidgets⟩ := by simpa only [Prod.mk.injEq] using hParts
  have hForgiving := hStrict.trans hLayout
  cases hRun : ofLenientJson unmeasuredDocument with
  | error e =>
      rw [hRun] at hForgiving
      cases hForgiving
  | ok l' =>
      rw [hRun] at hForgiving
      obtain rfl := Option.some.inj hForgiving
      exact ⟨l', rfl, hSame.symm.trans hRun, hLayout, hColumns, hUnit, hWidgets⟩

end Layout
end NoteBoard
