import NoteBoard.Filter.Basic
import NoteBoard.Vault.Field

/-!
The part of a filter that is checked on the fields of a note once it has been retrieved.
-/

namespace NoteBoard

/-- A field that must have one of some values. -/
structure Clause where
  key : String
  values : List String
deriving DecidableEq

/-- A condition on fields: every clause must hold. -/
abbrev Condition := List Clause

namespace Condition

/-- The clauses of the active rules. -/
def ofRules (rules : List FieldRule) : Condition :=
  (rules.filter FieldRule.isComplete).map fun r => ⟨r.name, r.wanted⟩

variable {K : Type} [Numeral K]

/-- Whether a field has one of the values of a clause. -/
def clauseHolds (fields : Frontmatter K) (c : Clause) : Bool :=
  (fields.find? c.key).any fun value => value.texts.any fun text => c.values.contains text

/-- Whether the fields of a note meet a condition. The empty condition also takes notes without
fields. -/
def holds (c : Condition) (fields : Option (Frontmatter K)) : Bool :=
  c.isEmpty || fields.any fun fields => c.all (clauseHolds fields)

end Condition
end NoteBoard
