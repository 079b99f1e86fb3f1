import VelaFlow.Foundation.Paging
import VelaFlow.Todoist.Parsing

/-!
# Fetching tasks

`_paginate`, `get_tasks` and `get_filtered_tasks` of `todoist.py`. The server is what it answers to
each request; a request for a page names a limit and, behind the first page, a cursor. Only
answers without an error are modelled.
-/
namespace VelaFlow.Todoist

open Planner

/-- The answer of an endpoint with pages. -/
structure Answer (α : Type) where
  /-- `results`, empty when the answer has none. -/
  results : List α
  /-- `next_cursor`. -/
  nextCursor : Option String

/-- What the server answers without an error: for each endpoint a limit and a cursor are asked. -/
structure Server where
  /-- `GET /tasks`. -/
  tasks : Nat → Option String → Answer RawTask
  /-- `GET /tasks/filter`, which is asked for a query too. -/
  filter : String → Nat → Option String → Answer RawTask
  /-- `GET /projects`. -/
  projects : Nat → Option String → Answer RawName
  /-- `GET /sections`. -/
  sections : Nat → Option String → Answer RawName

/-- The limit that the client asks for. -/
def pageLimit : Nat := 200

/-- The cursor that the client goes on with: an empty one ends the pages. -/
def goesOn (nextCursor : Option String) : Option String :=
  nextCursor.filter fun cursor => decide (cursor ≠ "")

/-- The loop of `_paginate`, as long as the fuel lasts. -/
def paginateFrom {α : Type} (get : Option String → Answer α) :
    Nat → Option String → List α → Option (List α)
  | 0, _, _ => none
  | fuel + 1, cursor, results =>
    let data := get cursor
    match goesOn data.nextCursor with
    | none => some (results ++ data.results)
    | some next => paginateFrom get fuel (some next) (results ++ data.results)

/-- `_paginate`. -/
def paginate {α : Type} (fuel : Nat) (get : Option String → Answer α) : Option (List α) :=
  paginateFrom get fuel none []

namespace ClientLibrary

variable (library : ClientLibrary)

/-- `get_tasks()`. -/
def getTasks (fuel : Nat) (server : Server) : Option (List Task) := do
  let rawTasks ← paginate fuel (server.tasks pageLimit)
  let projects ← paginate fuel (server.projects pageLimit)
  let sections ← paginate fuel (server.sections pageLimit)
  pure (rawTasks.map fun raw => library.parseTask raw projects sections)

/-- `get_filtered_tasks(query)`: one page, and no map of the sections. -/
def getFilteredTasks (fuel : Nat) (server : Server) (query : String) : Option (List Task) := do
  let rawTasks := (server.filter query pageLimit none).results
  let projects ← paginate fuel (server.projects pageLimit)
  pure (rawTasks.map fun raw => library.parseTask raw projects [])

end ClientLibrary

/-- The pages of an endpoint as the client reads them. -/
def pages {α : Type} (get : Option String → Answer α) (cursor : Option String) :
    List α × Option (Option String) :=
  ((get cursor).results, (goesOn (get cursor).nextCursor).map some)

/-- With enough fuel the loop returns what the endpoint serves. -/
theorem paginateFrom_of_serves {α : Type} {get : Option String → Answer α}
    {cursor : Option String} {items : List α} (serves : Serves (pages get) cursor items) :
    ∃ least, ∀ fuel, least ≤ fuel → ∀ results,
      paginateFrom get fuel cursor results = some (results ++ items) := by
  induction serves with
  | last ends =>
    refine ⟨1, fun fuel enough results => ?_⟩
    obtain ⟨rest, rfl⟩ := Nat.exists_eq_add_of_le' enough
    have none : goesOn (get _).nextCursor = .none := Option.map_eq_none_iff.mp ends
    unfold paginateFrom
    dsimp only
    rw [none]
    rfl
  | @more cursor next items continues rest ih =>
    obtain ⟨least, returns⟩ := ih
    refine ⟨least + 1, fun fuel enough results => ?_⟩
    obtain ⟨left, rfl⟩ := Nat.exists_eq_add_of_le' (Nat.le_of_add_left_le enough)
    obtain ⟨text, found, rfl⟩ := Option.map_eq_some_iff.mp continues
    unfold paginateFrom
    dsimp only
    rw [found]
    dsimp only
    rw [returns left (by omega), List.append_assoc]
    rfl

/-- With enough fuel all pages are returned. -/
theorem paginate_of_serves {α : Type} {get : Option String → Answer α} {items : List α}
    (serves : Serves (pages get) none items) :
    ∃ least, ∀ fuel, least ≤ fuel → paginate fuel get = some items := by
  obtain ⟨least, returns⟩ := paginateFrom_of_serves serves
  exact ⟨least, fun fuel enough => returns fuel enough []⟩

end VelaFlow.Todoist
