import NoteBoard.Board.Registry
import NoteBoard.Proofs.Board.UnderWay

/-! The registry of tokens and the ledger of generations agree. After any operations both have
issued the same tickets and have the same fetches under way, and a ticket is live exactly if its
token has not been cancelled. -/
namespace NoteBoard

namespace TokenStore

variable {store : TokenStore} {s : store.State} {root t u : store.Token} {held : List store.Token}

/-- A live root, and tokens that have been handed out. Those that still live are children of the
root. -/
structure IsRooted (store : TokenStore) (s : store.State) (root : store.Token)
    (held : List store.Token) : Prop where
  made_root : store.Made s root
  live_root : store.isCancelled s root = false
  parent_root : store.parent root = none
  made : ∀ t ∈ held, store.Made s t
  ne_root : ∀ t ∈ held, t ≠ root
  parent : ∀ t ∈ held, store.isCancelled s t = true ∨ store.parent t = some root
  distinct : held.Nodup

theorem isRooted_new (s : store.State) :
    store.IsRooted (store.make s none).2 (store.make s none).1 [] where
  made_root := store.made_new s none
  live_root := store.isCancelled_new s none
  parent_root := store.parent_make s none
  made := nofun
  ne_root := nofun
  parent := nofun
  distinct := List.nodup_nil

namespace IsRooted

variable (h : store.IsRooted s root held)

include h

/-- A child of the root can be handed out. -/
theorem child : store.IsRooted (store.make s (some root)).2 root
    (held ++ [(store.make s (some root)).1]) where
  made_root := store.made_make _ h.made_root
  live_root := (store.isCancelled_make _ h.made_root).trans h.live_root
  parent_root := h.parent_root
  made := by
    simp only [List.forall_mem_append, List.forall_mem_singleton]
    exact ⟨fun t ht => store.made_make _ (h.made t ht), store.made_new s _⟩
  ne_root := by
    simp only [List.forall_mem_append, List.forall_mem_singleton]
    refine ⟨h.ne_root, fun hSame => store.not_made_make s (some root) ?_⟩
    rw [hSame]
    exact h.made_root
  parent := by
    simp only [List.forall_mem_append, List.forall_mem_singleton]
    refine ⟨fun t ht => ?_, .inr (store.parent_make s _)⟩
    rw [store.isCancelled_make _ (h.made t ht)]
    exact h.parent t ht
  distinct := by
    refine List.nodup_append.2 ⟨h.distinct, List.nodup_singleton _, ?_⟩
    rintro t ht u hu rfl
    exact store.not_made_make s (some root) (List.mem_singleton.1 hu ▸ h.made t ht)

theorem live_child :
    store.isCancelled (store.make s (some root)).2 (store.make s (some root)).1 = false := by
  rw [store.isCancelled_new, Option.any_some, h.live_root]

/-- Cancelling a token leaves the root, and with it all other tokens, as they are. -/
theorem live_root_cancel (ht : t ∈ held) : store.isCancelled (store.cancel s t) root = false := by
  refine Bool.eq_false_iff.2 fun hCancelled => ?_
  obtain hBefore | hSame | ⟨above, hParent, -⟩ := store.of_isCancelled_cancel hCancelled
  · exact Bool.false_ne_true (h.live_root ▸ hBefore)
  · exact h.ne_root t ht hSame.symm
  · cases h.parent_root.symm.trans hParent

theorem isCancelled_cancel (ht : t ∈ held) (hu : u ∈ held) :
    store.isCancelled (store.cancel s t) u = true ↔ store.isCancelled s u = true ∨ u = t := by
  refine ⟨fun hCancelled => ?_, ?_⟩
  · obtain hBefore | hSame | ⟨above, hParent, hAbove⟩ := store.of_isCancelled_cancel hCancelled
    · exact .inl hBefore
    · exact .inr hSame
    · refine (h.parent u hu).imp_right fun hRoot => ?_
      cases hRoot.symm.trans hParent
      exact absurd hAbove (Bool.eq_false_iff.1 (h.live_root_cancel ht))
  · rintro (hBefore | rfl)
    · exact store.isCancelled_of_isCancelled t hBefore
    · exact store.isCancelled_cancel (h.made u hu)

theorem cancel (ht : t ∈ held) : store.IsRooted (store.cancel s t) root held where
  made_root := store.made_cancel t h.made_root
  live_root := h.live_root_cancel ht
  parent_root := h.parent_root
  made u hu := store.made_cancel t (h.made u hu)
  ne_root := h.ne_root
  parent u hu := (h.parent u hu).imp_left (store.isCancelled_of_isCancelled t)
  distinct := h.distinct

section CancelAny

variable {stale : Option store.Token} (hStale : ∀ t ∈ stale, t ∈ held)

include hStale

theorem cancelAny : store.IsRooted (store.cancelAny s stale) root held := by
  cases stale with
  | none => exact h
  | some t => exact h.cancel (hStale t rfl)

theorem isCancelled_cancelAny (hu : u ∈ held) :
    store.isCancelled (store.cancelAny s stale) u = true ↔
      store.isCancelled s u = true ∨ stale = some u := by
  cases stale with
  | none => simp [TokenStore.cancelAny]
  | some t =>
      rw [TokenStore.cancelAny, h.isCancelled_cancel (hStale t rfl) hu, Option.some.injEq,
        @eq_comm _ t u]

/-- A new child is live, also when a token that has been handed out before is cancelled at once. -/
theorem live_child_cancelAny : store.isCancelled
    (store.cancelAny (store.make s (some root)).2 stale) (store.make s (some root)).1 = false := by
  have hMore : ∀ t ∈ stale, t ∈ held ++ [(store.make s (some root)).1] :=
    fun t ht => List.mem_append_left _ (hStale t ht)
  refine Bool.eq_false_iff.2 fun hCancelled => ?_
  obtain hBefore | hNew := (h.child.isCancelled_cancelAny hMore
    (List.mem_append_right _ List.mem_cons_self)).1 hCancelled
  · exact Bool.false_ne_true (h.live_child ▸ hBefore)
  · exact store.not_made_make s (some root) (h.made _ (hStale _ hNew))

end CancelAny

/-- With the root, all tokens are cancelled. -/
theorem isCancelled_cancel_root (hu : u ∈ held) :
    store.isCancelled (store.cancel s root) u = true := by
  obtain hBefore | hParent := h.parent u hu
  · exact store.isCancelled_of_isCancelled root hBefore
  · exact store.isCancelled_of_parent hParent (store.isCancelled_cancel h.made_root)

/-- With the root, all tokens are cancelled for good, also when another root takes its place. -/
theorem isCancelled_renew (hu : u ∈ held) :
    store.isCancelled (store.make (store.cancel s root) none).2 u = true := by
  rw [store.isCancelled_make none (store.made_cancel root (h.made u hu))]
  exact h.isCancelled_cancel_root hu

theorem renew : store.IsRooted (store.make (store.cancel s root) none).2
    (store.make (store.cancel s root) none).1 held where
  made_root := store.made_new _ none
  live_root := store.isCancelled_new _ none
  parent_root := store.parent_make _ none
  made _ hu := store.made_make none (store.made_cancel root (h.made _ hu))
  ne_root u hu hSame := store.not_made_make (store.cancel s root) none
    (hSame ▸ store.made_cancel root (h.made u hu))
  parent _ hu := .inl (h.isCancelled_renew hu)
  distinct := h.distinct

end IsRooted
end TokenStore

namespace Registry

open Fetches

/-- The tickets that have been handed out, each with its token, and the registry. -/
structure History (store : TokenStore) where
  issued : List (Ticket × store.Token)
  registry : Registry store

namespace History

variable {store : TokenStore}

/-- A history with one more operation. -/
def perform (h : History store) : Op → History store
  | .start widget => ⟨h.issued ++ [(h.registry.start widget).1], (h.registry.start widget).2⟩
  | .cancel widget => ⟨h.issued, (h.registry.cancel widget).2⟩
  | .clear => ⟨h.issued, h.registry.clear⟩
  | .ended t => ⟨h.issued, h.registry.ended t⟩

/-- The history of operations, from a new registry on. -/
def of (store : TokenStore) (ops : List Op) : History store :=
  ops.foldl perform ⟨[], .new store⟩

theorem of_append (ops more : List Op) :
    of store (ops ++ more) = more.foldl perform (of store ops) := by
  rw [of, List.foldl_append, of]

end History

variable {store : TokenStore} {r : History store} {h : Fetches.History}

/-- A registry and a ledger with the same tickets and the same fetches under way, where a ticket is
live unless its token has been cancelled. -/
structure Agrees (r : History store) (h : Fetches.History) : Prop where
  rooted : store.IsRooted r.registry.tokens r.registry.root (r.issued.map Prod.snd)
  tickets : r.issued.map Prod.fst = h.issued
  generation : r.registry.generation = h.fetches.issued
  pending : r.registry.inFlight.mapValues Prod.fst = h.fetches.pending
  handed : ∀ widget generation token,
    r.registry.inFlight.lookup widget = some (generation, token) →
      (⟨widget, generation⟩, token) ∈ r.issued
  isLive : ∀ held ∈ r.issued,
    h.fetches.isLive held.1 = !store.isCancelled r.registry.tokens held.2

namespace Agrees

variable (hAgrees : Agrees r h)

include hAgrees

theorem mem_issued {held : Ticket × store.Token} (hHeld : held ∈ r.issued) : held.1 ∈ h.issued :=
  hAgrees.tickets ▸ List.mem_map_of_mem hHeld

theorem lookup_pending (widget : String) : h.fetches.pending.lookup widget =
    (r.registry.inFlight.lookup widget).map Prod.fst := by
  rw [← hAgrees.pending, Table.lookup_mapValues]

theorem mem_of_token? (widget : String) :
    ∀ token ∈ r.registry.token? widget, token ∈ r.issued.map Prod.snd := by
  intro token hToken
  obtain ⟨⟨generation, token⟩, hFlight, rfl⟩ := Option.map_eq_some_iff.1 hToken
  exact List.mem_map_of_mem (hAgrees.handed widget generation token hFlight)

/-- The token in flight for a widget is that of the ticket under way. -/
theorem token?_eq_iff (hSound : h.IsSound) {widget : String} {held : Ticket × store.Token}
    (hHeld : held ∈ r.issued) : r.registry.token? widget = some held.2 ↔
      h.fetches.pending.lookup widget = some held.1.generation := by
  rw [token?, hAgrees.lookup_pending]
  cases hFlight : r.registry.inFlight.lookup widget with
  | none => simp
  | some entry =>
      obtain ⟨generation, token⟩ := entry
      have hHanded := hAgrees.handed widget generation token hFlight
      simp only [Option.map_some, Option.some.injEq]
      constructor
      · rintro rfl
        rw [← List.inj_on_of_nodup_map hAgrees.rooted.distinct hHanded hHeld rfl]
      · rintro rfl
        have hDistinct : (r.issued.map Prod.fst).Nodup :=
          hAgrees.tickets ▸ hSound.nodup_generations.of_map _
        have hTicket := hSound.eq_of_generation (hAgrees.mem_issued hHanded)
          (hAgrees.mem_issued hHeld) rfl
        rw [← List.inj_on_of_nodup_map hDistinct hHanded hHeld hTicket]

/-- When what is in flight for a widget is cancelled, the ticket under way is dead, and no other. -/
theorem isLive_cancelAny (hSound : h.IsSound) {s : store.State} {more : List store.Token}
    (hRooted : store.IsRooted s r.registry.root (r.issued.map Prod.snd ++ more)) {widget : String}
    {held : Ticket × store.Token} (hHeld : held ∈ r.issued)
    (hSame : store.isCancelled s held.2 = store.isCancelled r.registry.tokens held.2) :
    (h.fetches.isLive held.1 = true ∧
        h.fetches.pending.lookup widget ≠ some held.1.generation) ↔
      (!store.isCancelled (store.cancelAny s (r.registry.token? widget)) held.2) = true := by
  have hStale : ∀ token ∈ r.registry.token? widget, token ∈ r.issued.map Prod.snd ++ more :=
    fun token hToken => List.mem_append_left more (hAgrees.mem_of_token? widget token hToken)
  have hToken : held.2 ∈ r.issued.map Prod.snd ++ more :=
    List.mem_append_left more (List.mem_map_of_mem hHeld)
  rw [hAgrees.isLive held hHeld, Bool.not_eq_true', Bool.not_eq_true', ← Bool.not_eq_true,
    ← Bool.not_eq_true, hRooted.isCancelled_cancelAny hStale hToken, not_or,
    hAgrees.token?_eq_iff hSound hHeld, hSame]

/-- Both hand out the same tickets. -/
theorem ticket_start (widget : String) :
    (r.registry.start widget).1.1 = (h.fetches.start widget).1 := by
  simp only [Registry.start, Fetches.start, hAgrees.generation]

/-- Both know for which widgets a fetch is under way. -/
theorem fst_cancel (widget : String) :
    (r.registry.cancel widget).1 = (h.fetches.cancel widget).1 := by
  rw [Registry.cancel, token?, Option.isSome_map, Fetches.cancel, hAgrees.lookup_pending]
  cases r.registry.inFlight.lookup widget with
  | none => rfl
  | some entry => rfl

/-- Both start a fetch. In the ledger the new ticket has to be live, as the new token is. -/
theorem start (hSound : h.IsSound) {widget : String}
    (hLive : (h.fetches.start widget).2.isLive (h.fetches.start widget).1 = true) :
    Agrees (r.perform (.start widget)) (h.perform (.start widget)) := by
  have hChild := hAgrees.rooted.child
  have hStale : ∀ token ∈ r.registry.token? widget, token ∈ r.issued.map Prod.snd ++
      [(r.registry.start widget).1.2] := fun token hToken =>
    List.mem_append_left _ (hAgrees.mem_of_token? widget token hToken)
  have hTicket := hAgrees.ticket_start widget
  refine ⟨?_, ?_, congrArg Nat.succ hAgrees.generation, ?_, ?_, ?_⟩
  · simp only [History.perform, List.map_append, List.map_cons, List.map_nil]
    exact hChild.cancelAny hStale
  · simp only [History.perform, Fetches.History.perform, List.map_append, List.map_cons,
      List.map_nil, hAgrees.tickets, hTicket]
  · simp only [History.perform, Fetches.History.perform, Registry.start, Fetches.start,
      Table.mapValues_set, hAgrees.pending, hAgrees.generation]
  · intro other generation token hFlight
    simp only [History.perform, Registry.start, Table.lookup_set] at hFlight ⊢
    split at hFlight
    · next hOther =>
      cases hFlight
      rw [hOther]
      exact List.mem_append_right _ List.mem_cons_self
    · exact List.mem_append_left _ (hAgrees.handed other generation token hFlight)
  · intro held hHeld
    rcases List.mem_append.1 hHeld with hOld | hNew
    · have hSame := store.isCancelled_make (some r.registry.root)
        (hAgrees.rooted.made held.2 (List.mem_map_of_mem hOld))
      exact Bool.eq_iff_iff.2
        (isLive_start.trans (hAgrees.isLive_cancelAny hSound hChild hOld hSame))
    · obtain rfl := List.mem_singleton.1 hNew
      have hToken : store.isCancelled (r.registry.start widget).2.tokens
          (r.registry.start widget).1.2 = false :=
        hAgrees.rooted.live_child_cancelAny (hAgrees.mem_of_token? widget)
      exact (hTicket ▸ hLive).trans (congrArg Bool.not hToken).symm

/-- What is still in flight when a widget's fetch is gone has been handed out. -/
theorem handed_erase (name : String) : ∀ widget generation token,
    (r.registry.inFlight.erase name).lookup widget = some (generation, token) →
      (⟨widget, generation⟩, token) ∈ r.issued := by
  intro widget generation token hFlight
  rw [Table.lookup_erase] at hFlight
  split at hFlight
  · cases hFlight
  · exact hAgrees.handed widget generation token hFlight

theorem mapValues_erase (name : String) :
    (r.registry.inFlight.erase name).mapValues Prod.fst = h.fetches.pending.erase name := by
  rw [Table.mapValues_erase, hAgrees.pending]

theorem cancel (hSound : h.IsSound) (widget : String) :
    Agrees (r.perform (.cancel widget)) (h.perform (.cancel widget)) := by
  have hRooted : store.IsRooted r.registry.tokens r.registry.root
      (r.issued.map Prod.snd ++ []) := by
    rw [List.append_nil]
    exact hAgrees.rooted
  have hPending : (h.fetches.cancel widget).2.pending = h.fetches.pending.erase widget := by
    unfold Fetches.cancel
    split
    · rfl
    · next hNone => exact (Table.erase_of_lookup_eq_none hNone).symm
  have hIssued : (h.fetches.cancel widget).2.issued = h.fetches.issued := by
    unfold Fetches.cancel
    split <;> rfl
  refine ⟨hAgrees.rooted.cancelAny (hAgrees.mem_of_token? widget), hAgrees.tickets,
    hAgrees.generation.trans hIssued.symm, (hAgrees.mapValues_erase widget).trans hPending.symm,
    hAgrees.handed_erase widget, ?_⟩
  intro held hHeld
  exact Bool.eq_iff_iff.2
    (isLive_cancel.trans (hAgrees.isLive_cancelAny hSound hRooted hHeld rfl))

theorem clear (hSound : h.IsSound) : Agrees (r.perform .clear) (h.perform .clear) := by
  refine ⟨hAgrees.rooted.renew, hAgrees.tickets, hAgrees.generation, rfl, nofun, ?_⟩
  intro held hHeld
  have hCancelled := hAgrees.rooted.isCancelled_renew (List.mem_map_of_mem hHeld)
  have hDead := isLive_clear (hSound.generation_le (hAgrees.mem_issued hHeld))
  exact hDead.trans (congrArg Bool.not hCancelled).symm

theorem ended (t : Ticket) : Agrees (r.perform (.ended t)) (h.perform (.ended t)) := by
  simp only [History.perform, Fetches.History.perform, Registry.ended, Fetches.ended,
    hAgrees.lookup_pending]
  split
  · exact ⟨hAgrees.rooted, hAgrees.tickets, hAgrees.generation, hAgrees.mapValues_erase t.widget,
      hAgrees.handed_erase t.widget, hAgrees.isLive⟩
  · exact hAgrees

end Agrees

/-- What has been issued, what is under way and what lives is the same in a registry and in the
ledger, after any operations. -/
theorem agrees_of (store : TokenStore) (ops : List Op) :
    Agrees (.of store ops) (.of ops) := by
  induction ops using List.reverseRecOn with
  | nil => exact ⟨store.isRooted_new store.empty, rfl, rfl, rfl, nofun, nofun⟩
  | append_singleton ops op ih =>
      have hSound := Fetches.History.of_isSound ops
      rw [Fetches.History.of_append, History.of_append]
      cases op with
      | start widget => exact ih.start hSound (Fetches.History.isLive_start_new ops widget)
      | cancel widget => exact ih.cancel hSound widget
      | clear => exact ih.clear hSound
      | ended t => exact ih.ended t

/-- The first fetch of a widget is superseded, the second one is cancelled with the root. -/
example : let r := History.of .numbered [.start "tile", .start "tile", .clear, .start "list"]
    r.issued.map (fun held => TokenStore.numbered.isCancelled r.registry.tokens held.2) =
      [true, true, false] := by
  decide

end Registry
end NoteBoard
