import NoteBoard.Proofs.Json.Storable

/-! What the text of a value holds: in place of a number that is not finite stands null. -/
namespace NoteBoard.Json

variable {K : Type} [Numeral K]

mutual

/-- The value with null in place of the numbers that are not finite. -/
def held : Json K → Json K
  | .real x => if Number.isFinite x then .real x else .null
  | .array items => .array (heldItems items)
  | .object members => .object (heldMembers members)
  | value => value

def heldItems : List (Json K) → List (Json K)
  | [] => []
  | item :: rest => item.held :: heldItems rest

def heldMembers : List (String × Json K) → List (String × Json K)
  | [] => []
  | (name, value) :: rest => (name, value.held) :: heldMembers rest

end

theorem prettyAt_held_real (x : K) (level : Nat) :
    (held (.real x)).prettyAt level = prettyAt level (.real x) := by
  cases hFinite : Number.isFinite x with
  | false => simp [held, hFinite, prettyAt, compact, Numeral.documentText?]
  | true => simp [held, hFinite]

mutual

theorem prettyAt_held (value : Json K) (level : Nat) :
    value.held.prettyAt level = value.prettyAt level := by
  match value with
  | .null | .bool _ | .integer _ | .text _ | .unusable => rfl
  | .real x => exact prettyAt_held_real x level
  | .array [] | .object [] => rfl
  | .array (item :: rest) =>
      have hItems := prettyItems_held (item :: rest) (level + 1)
      rw [heldItems] at hItems
      rw [held, heldItems, prettyAt, prettyAt, hItems] <;> exact List.cons_ne_nil _ _
  | .object ((name, value) :: rest) =>
      have hMembers := prettyMembers_held ((name, value) :: rest) (level + 1)
      rw [heldMembers] at hMembers
      rw [held, heldMembers, prettyAt, prettyAt, hMembers] <;> exact List.cons_ne_nil _ _

theorem prettyItems_held (items : List (Json K)) (level : Nat) :
    prettyItems level (heldItems items) = prettyItems level items := by
  match items with
  | [] => rfl
  | [item] => simp only [heldItems, prettyItems, prettyAt_held item level]
  | item :: next :: rest =>
      have hRest := prettyItems_held (next :: rest) level
      rw [heldItems] at hRest
      simp only [heldItems, prettyItems, prettyAt_held item level, hRest]

theorem prettyMembers_held (members : List (String × Json K)) (level : Nat) :
    prettyMembers level (heldMembers members) = prettyMembers level members := by
  match members with
  | [] => rfl
  | [(name, value)] => simp only [heldMembers, prettyMembers, prettyAt_held value level]
  | (name, value) :: next :: rest =>
      have hRest := prettyMembers_held (next :: rest) level
      rw [heldMembers] at hRest
      simp only [heldMembers, prettyMembers, prettyAt_held value level, hRest]

end

theorem pretty_held (value : Json K) : value.held.pretty = value.pretty :=
  value.prettyAt_held 0

theorem heldItems_eq_map (items : List (Json K)) : heldItems items = items.map held := by
  induction items with
  | nil => rfl
  | cons item rest ih => rw [heldItems, ih, List.map_cons]

theorem heldMembers_eq_map (members : List (String × Json K)) :
    heldMembers members = members.map fun m => (m.1, m.2.held) := by
  induction members with
  | nil => rfl
  | cons m rest ih => rw [heldMembers, ih, List.map_cons]

theorem held_array (items : List (Json K)) : held (.array items) = .array (items.map held) := by
  rw [held, heldItems_eq_map]

theorem held_object (members : List (String × Json K)) :
    held (.object members) = .object (heldMembers members) := by
  rw [held]

theorem heldMembers_append (members others : List (String × Json K)) :
    heldMembers (members ++ others) = heldMembers members ++ heldMembers others := by
  simp [heldMembers_eq_map]

theorem names_heldMembers (members : List (String × Json K)) :
    (heldMembers members).map Prod.fst = members.map Prod.fst := by
  simp [heldMembers_eq_map]

theorem ReadsBack.isFinite {x : K} (h : ReadsBack x) : Number.isFinite x = true := by
  obtain ⟨text, hText, -⟩ := Option.bind_eq_some_iff.1 h
  unfold Numeral.documentText? at hText
  split at hText
  · assumption
  · cases hText

theorem heldMembers_eq_self {members : List (String × Json K)}
    (h : ∀ m ∈ members, m.2.held = m.2) : heldMembers members = members := by
  induction members with
  | nil => rfl
  | cons m rest ih =>
      obtain ⟨hFirst, hRest⟩ := List.forall_mem_cons.1 h
      rw [heldMembers, hFirst, ih hRest]

namespace IsStorable

theorem held_eq {depth : Nat} {value : Json K} (h : IsStorable depth value) :
    value.held = value := by
  induction h with
  | real hNumber => rw [held, if_pos hNumber.isFinite]
  | array _ ih => rw [held_array, List.map_congr_left ih, List.map_id']
  | object _ _ ih => rw [held_object, heldMembers_eq_self ih]
  | _ => rfl

theorem heldMembers_eq {depth : Nat} {members : List (String × Json K)}
    (h : ∀ m ∈ members, IsStorable depth m.2) : heldMembers members = members :=
  heldMembers_eq_self fun m hm => (h m hm).held_eq

end IsStorable

theorem storable_held_real {x : K} (h : Number.isFinite x = true → ReadsBack x) (depth : Nat) :
    IsStorable depth (held (.real x)) := by
  rw [held]
  split
  · next hFinite => exact .real (h hFinite)
  · exact .null

end NoteBoard.Json
