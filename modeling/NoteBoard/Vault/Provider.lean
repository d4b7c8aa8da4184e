import NoteBoard.Query.Tree
import NoteBoard.Vault.Page

/-!
Providers: what answers queries for notes and tasks.
-/

namespace NoteBoard

/-- Why a provider does not answer. -/
inductive ProviderError where
  /-- The query is not well formed. -/
  | query (text : String) (cause : Query.Error)
  /-- Any other reason, in the provider's words. -/
  | other (reason : String)
deriving DecidableEq

def ProviderError.message : ProviderError → String
  | .query text cause => cause.message text
  | .other reason => reason

/-- A provider of notes and tasks. The empty query asks for everything. -/
class Provider (σ : Type) (K : outParam Type) where
  /-- Whether the provider can be asked already. -/
  isReady : σ → Bool
  pages : σ → String → Except ProviderError (List (Page K))
  tasks : σ → String → Except ProviderError (List Task)
  /-- Flips the checkbox on a line of a note, and says whether there was one. -/
  toggle : σ → String → Nat → Bool × σ

/-- The provider that stands in where there is none: never ready, and without notes. -/
structure NoProvider (K : Type) where

instance {K : Type} : Provider (NoProvider K) K where
  isReady _ := false
  pages _ _ := .ok []
  tasks _ _ := .ok []
  toggle s _ _ := (false, s)

end NoteBoard
