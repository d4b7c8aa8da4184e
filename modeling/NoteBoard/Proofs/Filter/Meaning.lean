import NoteBoard.Proofs.Filter.Compile

/-! What a filter asks for, whatever its text: one of its folders must take the path, one of its
tags must take a tag, and the fields must meet its rules. Where there are no folders, no tags or no
complete rules, that part asks for nothing. -/
namespace NoteBoard

namespace Query.Tree

/-- A hash in front of a wanted tag does not matter. -/
theorem tagTakes_hash (wanted tag : String) :
    tagTakes ("#" ++ wanted) tag = tagTakes wanted tag := by
  have hBare : Text.dropStart (· == '#') ("#" ++ wanted).toList =
      Text.dropStart (· == '#') wanted.toList := by
    rw [String.toList_append]
    rfl
  simp only [tagTakes, hBare]

theorem takes_foldl_or (tags : List String) (path : String) (e : Tree) (rest : List Tree) :
    (rest.foldl .or e).takes tags path = (e :: rest).any (takes tags path) := by
  induction rest generalizing e with
  | nil => simp
  | cons next rest ih =>
      rw [List.foldl_cons, ih, List.any_cons, takes, List.any_cons, List.any_cons, Bool.or_assoc]

/-- The trees with OR between them take what any of them takes. -/
theorem all_takes_anyOf (tags : List String) (path : String) (es : List Tree) :
    (anyOf es).all (takes tags path) = (es.isEmpty || es.any (takes tags path)) := by
  cases es with
  | nil => rfl
  | cons e rest => exact takes_foldl_or tags path e rest

end Query.Tree

namespace Filter

open Query

/-- Whether one of the folders takes a path. -/
def admitsPath (f : Filter) (path : String) : Bool :=
  f.folderNames.isEmpty || f.folderNames.any fun folder => Tree.folderTakes folder path

/-- Whether one of the tags takes one of some tags. -/
def admitsTags (f : Filter) (tags : List String) : Bool :=
  f.tagNames.isEmpty || f.tagNames.any fun tag => tags.any (Tree.tagTakes tag)

/-- The tree of a filter says what its folders and its tags ask for. -/
theorem takes_sourceTree (f : Filter) (tags : List String) (path : String) :
    f.sourceTree.takes tags path = (f.admitsPath path && f.admitsTags tags) := by
  have hFolders : f.admitsPath path =
      (Tree.anyOf (f.folderNames.map .folder)).all (Tree.takes tags path) := by
    rw [Tree.all_takes_anyOf, List.isEmpty_map, List.any_map]
    rfl
  have hTags : f.admitsTags tags =
      (Tree.anyOf (f.tagNames.map fun tag => .tag ("#" ++ tag))).all (Tree.takes tags path) := by
    rw [Tree.all_takes_anyOf, List.isEmpty_map, List.any_map, admitsTags]
    simp only [Function.comp_def, Tree.takes, funext (Tree.tagTakes_hash _)]
  rw [sourceTree, hFolders, hTags]
  cases Tree.anyOf (f.folderNames.map .folder) with
  | none =>
      cases Tree.anyOf (f.tagNames.map fun tag => .tag ("#" ++ tag)) with
      | none => rfl
      | some tags => rfl
  | some folders =>
      cases Tree.anyOf (f.tagNames.map fun tag => .tag ("#" ++ tag)) with
      | none => simp
      | some tags => rfl

/-- Only complete rules make a condition. -/
theorem isEmpty_ofRules (f : Filter) :
    (Condition.ofRules f.rules).isEmpty = !f.hasCompleteRule := by
  rw [Bool.eq_iff_iff]
  simp [Condition.ofRules, hasCompleteRule]

end Filter
end NoteBoard
