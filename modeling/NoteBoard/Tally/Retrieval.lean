import NoteBoard.Filter.Compile
import NoteBoard.Vault.Provider

/-!
What filters select from a provider. Filters are asked one by one, and a provider that is not
ready or does not answer contributes nothing for that filter; the answers are merged in order,
each note and each task once.
-/

namespace NoteBoard

/-- The items with a key seen for the first time, in order. -/
def distinctBy {α β : Type} [DecidableEq β] (key : α → β) : List α → List α
  | [] => []
  | a :: rest => a :: (distinctBy key rest).filter fun b => key b ≠ key a

namespace Retrieval

variable {σ K : Type} [Provider σ K] [Numeral K]

/-- The notes a provider has for a query, none if it is not ready or fails. -/
def askPages (s : σ) (query : String) : List (Page K) :=
  if Provider.isReady s then ((Provider.pages s query).toOption).getD [] else []

/-- The tasks a provider has for a query, none if it is not ready or fails. -/
def askTasks (s : σ) (query : String) : List Task :=
  if Provider.isReady s then ((Provider.tasks s query).toOption).getD [] else []

/-- The notes of one filter: those the provider selects that meet the condition on fields. -/
def pagesOf (s : σ) (f : Filter) : List (Page K) :=
  let c := f.compile
  (askPages s c.source).filter fun p => c.condition.holds p.frontmatter

/-- The tasks of one filter. A condition on fields is one on the note at the path of the task. -/
def tasksOf (s : σ) (f : Filter) : List Task :=
  let c := f.compile
  let tasks := askTasks s c.source
  if c.condition.isEmpty then tasks
  else
    let allowed := (pagesOf s f).map (·.path)
    tasks.filter fun t => allowed.contains t.path

/-- No filters mean everything. -/
def orEverything (filters : List Filter) : List Filter :=
  if filters.isEmpty then [.everything] else filters

/-- The notes that any filter selects, each path once. -/
def pages (s : σ) (filters : List Filter) : List (Page K) :=
  distinctBy (·.path) ((orEverything filters).flatMap (pagesOf s))

/-- The tasks that any filter selects, each line of a path once. -/
def tasks (s : σ) (filters : List Filter) : List Task :=
  distinctBy (fun t => (t.path, t.line)) ((orEverything filters).flatMap (tasksOf s))

end Retrieval
end NoteBoard
