import NoteBoard.Proofs.Json.Text

/-! Values that a document can store: what is written for them is read back as they were. -/
namespace NoteBoard.Json

open Token

variable {K : Type}

/-- The tokens of a value hand it to the containers around it, unless these are too many. -/
def Builds (depth : Nat) (tokens : List (Token K)) (value : Json K) : Prop :=
  ∀ frames : List (Frame K), frames.length + depth ≤ depthLimit →
    tokens.foldlM Build.step ⟨frames, .value, .null⟩ = some (Build.deliver value frames)

/-- The tokens of the items of an array add them to those before, up to the end of the last. -/
def BuildsItems (depth : Nat) (tokens : List (Token K)) (items : List (Json K)) : Prop :=
  ∀ (done : List (Json K)) (outer : List (Frame K)), outer.length + 1 + depth ≤ depthLimit →
    tokens.foldlM Build.step ⟨.array done :: outer, .value, .null⟩ =
      some ⟨.array (items.reverse ++ done) :: outer, .next, .null⟩

/-- The same for the members of an object. -/
def BuildsMembers (depth : Nat) (tokens : List (Token K)) (members : List (String × Json K)) :
    Prop :=
  ∀ (done : List (Option String × Json K)) (outer : List (Frame K)),
    outer.length + 1 + depth ≤ depthLimit →
      tokens.foldlM Build.step ⟨.object done none :: outer, .name, .null⟩ =
        some ⟨.object ((members.map fun m => (some m.1, m.2)).reverse ++ done) none :: outer,
          .next, .null⟩

namespace Build

/-- Where a container may end at once, all other tokens mean what they mean later on. -/
theorem foldlM_firstValue {frames : List (Frame K)} {tokens : List (Token K)} {b : Build K}
    (h : tokens.foldlM step ⟨frames, .value, .null⟩ = some b) (hNext : b.awaiting = .next) :
    tokens.foldlM step ⟨frames, .firstValue, .null⟩ = some b := by
  cases tokens with
  | nil =>
      cases h
      cases hNext
  | cons token rest =>
      cases token with
      | closeArray => cases h
      | _ => exact h

theorem foldlM_firstName {frames : List (Frame K)} {tokens : List (Token K)} {b : Build K}
    (h : tokens.foldlM step ⟨frames, .name, .null⟩ = some b) (hNext : b.awaiting = .next) :
    tokens.foldlM step ⟨frames, .firstName, .null⟩ = some b := by
  cases tokens with
  | nil =>
      cases h
      cases hNext
  | cons token rest =>
      cases token with
      | closeObject =>
          cases frames with
          | nil => cases h
          | cons frame outer => cases frame <;> cases h
      | _ => exact h

theorem objectOf_named (members : List (String × Json K)) :
    objectOf (members.map fun m => (some m.1, m.2)).reverse = .object members := by
  have hNamed : (members.map fun m => (some m.1, m.2)).mapM (m := Option)
      (fun m => m.1.map (·, m.2)) = some members := by
    induction members with
    | nil => rfl
    | cons m rest ih => simp [ih]
  rw [objectOf, List.reverse_reverse]
  split
  · next found hFound => rw [Option.some_inj.1 (hFound.symm.trans hNamed)]
  · next hNone => cases hNone.symm.trans hNamed

end Build

section Containers

variable {depth : Nat} {tokens others : List (Token K)} {items : List (Json K)}
  {members : List (String × Json K)} {value : Json K} {name : String}

theorem builds_scalar (value : Json K) : Builds depth [.scalar value] value :=
  fun _ _ => rfl

theorem builds_text (text : String) : Builds (K := K) depth [.text (some text)] (.text text) :=
  fun _ _ => rfl

theorem Builds.lastItem (h : Builds depth tokens value) : BuildsItems depth tokens [value] :=
  fun done outer hDepth => h (.array done :: outer) hDepth

theorem Builds.item (h : Builds depth tokens value) (hRest : BuildsItems depth others items) :
    BuildsItems depth (tokens ++ .comma :: others) (value :: items) := by
  intro done outer hDepth
  have hFirst := h (.array done :: outer) hDepth
  rw [List.foldlM_append, hFirst]
  show others.foldlM Build.step ⟨.array (value :: done) :: outer, .value, .null⟩ = _
  rw [hRest _ _ hDepth, List.reverse_cons, List.append_assoc]
  rfl

theorem Builds.lastMember (h : Builds depth tokens value) :
    BuildsMembers depth (.text (some name) :: .colon :: tokens) [(name, value)] :=
  fun done outer hDepth => h (.object done (some name) :: outer) hDepth

theorem Builds.member (h : Builds depth tokens value) (hRest : BuildsMembers depth others members) :
    BuildsMembers depth (.text (some name) :: .colon :: tokens ++ .comma :: others)
      ((name, value) :: members) := by
  intro done outer hDepth
  have hFirst : BuildsMembers depth (.text (some name) :: .colon :: tokens) [(name, value)] :=
    h.lastMember
  rw [List.foldlM_append, hFirst done outer hDepth]
  show others.foldlM Build.step
    ⟨.object ((some name, value) :: done) none :: outer, .name, .null⟩ = _
  rw [hRest _ _ hDepth, List.map_cons, List.reverse_cons, List.append_assoc]
  rfl

theorem builds_array_nil :
    Builds (K := K) (depth + 1) [.openArray, .closeArray] (.array []) := by
  intro frames hDepth
  have hHeld : frames.length + 1 ≤ depthLimit := by omega
  show some (Build.deliver (if frames.length + 1 ≤ depthLimit then _ else _) frames) = _
  rw [if_pos hHeld]
  rfl

theorem BuildsItems.array (h : BuildsItems depth tokens items) :
    Builds (depth + 1) (.openArray :: tokens ++ [.closeArray]) (.array items) := by
  intro frames hDepth
  have hHeld : frames.length + 1 ≤ depthLimit := by omega
  have hItems := Build.foldlM_firstValue (h [] frames (by omega)) rfl
  rw [List.foldlM_append]
  show (tokens.foldlM Build.step ⟨.array [] :: frames, .firstValue, .null⟩).bind _ = _
  rw [hItems]
  show some (Build.deliver (if frames.length + 1 ≤ depthLimit then _ else _) frames) = _
  rw [if_pos hHeld, List.append_nil, List.reverse_reverse]

theorem builds_object_nil :
    Builds (K := K) (depth + 1) [.openObject, .closeObject] (.object []) := by
  intro frames hDepth
  have hHeld : frames.length + 1 ≤ depthLimit := by omega
  show some (Build.deliver (if frames.length + 1 ≤ depthLimit then _ else _) frames) = _
  rw [if_pos hHeld]
  rfl

theorem BuildsMembers.object (h : BuildsMembers depth tokens members) :
    Builds (depth + 1) (.openObject :: tokens ++ [.closeObject]) (.object members) := by
  intro frames hDepth
  have hHeld : frames.length + 1 ≤ depthLimit := by omega
  have hMembers := Build.foldlM_firstName (h [] frames (by omega)) rfl
  rw [List.foldlM_append]
  show (tokens.foldlM Build.step ⟨.object [] none :: frames, .firstName, .null⟩).bind _ = _
  rw [hMembers]
  show some (Build.deliver (if frames.length + 1 ≤ depthLimit then _ else _) frames) = _
  rw [if_pos hHeld, List.append_nil, Build.objectOf_named]

end Containers

variable [Numeral K]

/-- A value that its text can give back: numbers that are read back, and members with different
names. Containers are nested at most so deep. -/
inductive IsStorable : Nat → Json K → Prop where
  | null {depth : Nat} : IsStorable depth .null
  | bool {depth : Nat} (value : Bool) : IsStorable depth (.bool value)
  | integer {depth n : Nat} (hSize : n ≤ Literal.significandLimit) : IsStorable depth (.integer n)
  | real {depth : Nat} {x : K} (hNumber : ReadsBack x) : IsStorable depth (.real x)
  | text {depth : Nat} (value : String) : IsStorable depth (.text value)
  | array {depth : Nat} {items : List (Json K)} (hItems : ∀ item ∈ items, IsStorable depth item) :
      IsStorable (depth + 1) (.array items)
  | object {depth : Nat} {members : List (String × Json K)} (hNames : (members.map Prod.fst).Nodup)
      (hMembers : ∀ m ∈ members, IsStorable depth m.2) : IsStorable (depth + 1) (.object members)

/-- The text holds a value: its tokens are those of the value. -/
def Writes (depth : Nat) (text : String) (value : Json K) : Prop :=
  ∃ tokens, Reads text.toList tokens ∧ Builds depth tokens value

theorem closes_comma : Closes (K := K) [','] [.comma] := fun _ => rfl

theorem closes_colon : Closes (K := K) [':', ' '] [.colon] := fun _ => rfl

theorem exists_items {depth level : Nat} {items : List (Json K)}
    (h : ∀ item ∈ items, Writes depth (item.prettyAt level) item) (hItems : items ≠ []) :
    ∃ tokens, Reads (prettyItems level items).toList tokens ∧ BuildsItems depth tokens items := by
  induction items with
  | nil => exact absurd rfl hItems
  | cons item rest ih =>
      obtain ⟨⟨tokens, hReads, hBuilds⟩, hRest⟩ := List.forall_mem_cons.1 h
      have hLine := (closes_newLine (K := K) level).append_reads hReads
      cases rest with
      | nil =>
          refine ⟨tokens, ?_, hBuilds.lastItem⟩
          rwa [prettyItems, String.toList_append]
      | cons next others =>
          obtain ⟨more, hMore, hBuildsMore⟩ := ih hRest (List.cons_ne_nil _ _)
          refine ⟨tokens ++ .comma :: more, ?_, hBuilds.item hBuildsMore⟩
          -- The comma ends the number or word that the item may be.
          have hComma := hLine.append_closes (by decide) closes_comma
          have hAll := hComma.append_reads hMore
          simpa [prettyItems] using hAll

theorem exists_members {depth level : Nat} {members : List (String × Json K)}
    (h : ∀ m ∈ members, Writes depth (m.2.prettyAt level) m.2) (hMembers : members ≠ []) :
    ∃ tokens, Reads (prettyMembers level members).toList tokens ∧
      BuildsMembers depth tokens members := by
  induction members with
  | nil => exact absurd rfl hMembers
  | cons m rest ih =>
      obtain ⟨⟨tokens, hReads, hBuilds⟩, hRest⟩ := List.forall_mem_cons.1 h
      obtain ⟨name, value⟩ := m
      have hName := (closes_newLine (K := K) level).append (closes_quoted name)
      have hLine := (hName.append closes_colon).append_reads hReads
      cases rest with
      | nil =>
          refine ⟨_, ?_, hBuilds.lastMember⟩
          simpa [prettyMembers] using hLine
      | cons next others =>
          obtain ⟨more, hMore, hBuildsMore⟩ := ih hRest (List.cons_ne_nil _ _)
          refine ⟨_, ?_, hBuilds.member hBuildsMore⟩
          have hComma := hLine.append_closes (by decide) closes_comma
          have hAll := hComma.append_reads hMore
          simpa [prettyMembers] using hAll

theorem writes_array {depth level : Nat} {items : List (Json K)}
    (h : ∀ item ∈ items, Writes depth (item.prettyAt (level + 1)) item) :
    Writes (depth + 1) (prettyAt level (.array items)) (.array items) := by
  have hOpen : Closes (K := K) ['['] [.openArray] := fun _ => rfl
  have hClose : Closes (K := K) [']'] [.closeArray] := fun _ => rfl
  cases items with
  | nil => exact ⟨_, by simpa [prettyAt] using (hOpen.append hClose).reads, builds_array_nil⟩
  | cons item rest =>
      obtain ⟨tokens, hReads, hBuilds⟩ := exists_items h (List.cons_ne_nil _ _)
      refine ⟨_, ?_, hBuilds.array⟩
      have hEnd := (closes_newLine level).append hClose
      rw [toList_newLine] at hEnd
      have hAll := (hOpen.append_reads hReads).append_closes (by decide) hEnd
      simpa [prettyAt, toList_newLine] using hAll.reads

theorem writes_object {depth level : Nat} {members : List (String × Json K)}
    (h : ∀ m ∈ members, Writes depth (m.2.prettyAt (level + 1)) m.2) :
    Writes (depth + 1) (prettyAt level (.object members)) (.object members) := by
  have hOpen : Closes (K := K) ['\x7b'] [.openObject] := fun _ => rfl
  have hClose : Closes (K := K) ['\x7d'] [.closeObject] := fun _ => rfl
  cases members with
  | nil => exact ⟨_, by simpa [prettyAt] using (hOpen.append hClose).reads, builds_object_nil⟩
  | cons m rest =>
      obtain ⟨tokens, hReads, hBuilds⟩ := exists_members h (List.cons_ne_nil _ _)
      refine ⟨_, ?_, hBuilds.object⟩
      have hEnd := (closes_newLine level).append hClose
      rw [toList_newLine] at hEnd
      have hAll := (hOpen.append_reads hReads).append_closes (by decide) hEnd
      simpa [prettyAt, toList_newLine] using hAll.reads

namespace IsStorable

theorem integer_iff {depth : Nat} {n : Int} :
    IsStorable (K := K) depth (.integer n) ↔ 0 ≤ n ∧ n ≤ Literal.significandLimit := by
  constructor
  · rintro ⟨⟩
    omega
  · rintro ⟨hSign, hSize⟩
    obtain ⟨m, rfl⟩ := Int.eq_ofNat_of_zero_le hSign
    exact .integer (Int.ofNat_le.1 hSize)

theorem array_iff {depth : Nat} {items : List (Json K)} :
    IsStorable (depth + 1) (.array items) ↔ ∀ item ∈ items, IsStorable depth item :=
  ⟨fun h => by cases h; assumption, .array⟩

theorem object_iff {depth : Nat} {members : List (String × Json K)} :
    IsStorable (depth + 1) (.object members) ↔
      (members.map Prod.fst).Nodup ∧ ∀ m ∈ members, IsStorable depth m.2 :=
  ⟨fun h => by cases h; constructor <;> assumption, fun h => .object h.1 h.2⟩

theorem writes {depth : Nat} {value : Json K} (h : IsStorable depth value) (level : Nat) :
    Writes depth (value.prettyAt level) value := by
  induction h generalizing level with
  | null => exact ⟨_, reads_null, builds_scalar _⟩
  | bool value => exact ⟨_, reads_bool value, builds_scalar _⟩
  | integer hSize => exact ⟨_, reads_nat hSize, builds_scalar _⟩
  | real hNumber => exact ⟨_, hNumber.reads, builds_scalar _⟩
  | text value => exact ⟨_, (closes_quoted value).reads, builds_text value⟩
  | array _ ih => exact writes_array fun item hItem => ih item hItem (level + 1)
  | object _ _ ih => exact writes_object fun m hm => ih m hm (level + 1)

/-- A value that can be stored is read back from its text. -/
theorem read?_pretty {depth : Nat} {value : Json K} (h : IsStorable depth value)
    (hDepth : depth ≤ depthLimit) : read? value.pretty = some value := by
  obtain ⟨tokens, hReads, hBuilds⟩ := h.writes 0
  have hBuilt := hBuilds [] (by simpa using hDepth)
  rw [read?, pretty, hReads.ofChars?, Option.bind_some, ofTokens?, hBuilt]
  rfl

end IsStorable
end NoteBoard.Json
