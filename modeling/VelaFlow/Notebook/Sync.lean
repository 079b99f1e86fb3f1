import VelaFlow.Foundation.KeyValue
import VelaFlow.Foundation.Sorting
import VelaFlow.Notebook.Extraction
import VelaFlow.Planner.Models
import Mathlib.Data.String.Basic

/-!
# Keeping a notebook up to date

The active tasks of Todoist make one more source, by project and section, the most urgent first. The
sync then deletes the sources of a notebook and adds the new ones. The service can refuse any call
with an `RPCError`, which the sync passes over, and fail in other ways, which end it.
-/
namespace VelaFlow.Notebook

open Planner

/-- A name of a project or a section, which the client gives as a text. -/
def nameText : Json → String
  | .str text => text
  | _ => ""

/-- `t.project_name or "Inbox"`. -/
def projectOf (task : Task) : String :=
  if nameText task.projectName ≠ "" then nameText task.projectName else "Inbox"

/-- `t.section_name or ""`. -/
def sectionOf (task : Task) : String := nameText task.sectionName

/-- `_PRIORITY_LABEL.get(t.priority, "")`. -/
def priorityLabel (priority : Int) : String :=
  if priority = 4 then "P1" else if priority = 3 then "P2" else if priority = 2 then "P3" else ""

/-- `(-x.priority, str(x.due_date or "9999"))`. -/
def urgencyKey (task : Task) : Int ×ₗ String :=
  toLex (-task.priority, (task.dueDate.map Date.isoformat).getD "9999")

/-- The lines of a task. -/
def taskLines (task : Task) : List String :=
  let plabel := priorityLabel task.priority
  let labelled := if plabel ≠ "" then [plabel] else []
  let dated := (task.dueDate.map fun due => "due:" ++ due.isoformat).toList
  let tagged := if task.labels ≠ [] then ["labels:" ++ ",".intercalate task.labels] else []
  let recurring := if task.isRecurring then ["recurring"] else []
  let about := labelled ++ dated ++ tagged ++ recurring
  let suffix := if about ≠ [] then " (" ++ " ".intercalate about ++ ")" else ""
  ("- " ++ task.content ++ suffix) ::
    if task.description ≠ "" then ["  " ++ task.description] else []

/-- `sections[sname].append(t)`. -/
def addToSection (sections : List (String × List Task)) (task : Task) :
    List (String × List Task) :=
  gatherOne (fun listed one => listed ++ [one]) [] sectionOf sections task

/-- `grouped`: project by project the sections with their tasks. -/
def grouped (tasks : List Task) : List (String × List (String × List Task)) :=
  gather addToSection [] projectOf tasks

/-- The lines of a section. -/
def sectionLines (sname : String) (tasks : List Task) : List String :=
  (if sname ≠ "" then ["### " ++ sname] else []) ++ (sortBy urgencyKey tasks).flatMap taskLines

/-- The lines of a project. -/
def projectLines (pname : String) (sections : List (String × List Task)) : List String :=
  ["## " ++ pname] ++ ((sortBy id (sections.map Prod.fst)).flatMap fun sname =>
    sectionLines sname ((sections.lookup sname).getD [])) ++ [""]

/-- The lines of the source of the tasks. -/
def todoistLines (tasks : List Task) : List String :=
  ["# Todoist Active Tasks", ""] ++
    (sortBy id ((grouped tasks).map Prod.fst)).flatMap fun pname =>
      projectLines pname (((grouped tasks).lookup pname).getD [])

/-- `build_todoist_bundle`, with the token and the answer of `get_tasks`. -/
def buildTodoistBundle (todoistApiToken : String) (tasks : Except PyException (List Task)) :
    Option SourceBundle :=
  if todoistApiToken = "" then none
  else
    match tasks with
    | .error _ => none
    | .ok [] => none
    | .ok tasks => some
        { title := "Todoist Active Tasks", sections := ["\n".intercalate (todoistLines tasks)] }

/-- The tasks of a project. -/
def ofProject (tasks : List Task) (pname : String) : List Task :=
  tasks.filter fun task => decide (projectOf task = pname)

/-- The tasks of a section of a project. -/
def ofSection (tasks : List Task) (pname sname : String) : List Task :=
  (ofProject tasks pname).filter fun task => decide (sectionOf task = sname)

/-- The key of the whole source: by project, section, urgency and day. -/
def sourceKey (task : Task) : String ×ₗ String ×ₗ Int ×ₗ String :=
  toLex (projectOf task, toLex (sectionOf task, urgencyKey task))

/-- The tasks of a project are gathered into its sections. -/
theorem lookup_grouped (tasks : List Task) (pname : String) :
    ((grouped tasks).lookup pname).getD [] =
      gather (fun listed one => listed ++ [one]) [] sectionOf (ofProject tasks pname) :=
  lookup_gather addToSection [] projectOf tasks pname

/-- A section holds its tasks. -/
theorem lookup_sections (tasks : List Task) (pname sname : String) :
    ((((grouped tasks).lookup pname).getD []).lookup sname).getD [] =
      ofSection tasks pname sname := by
  have listed : ∀ (items kept : List Task),
      items.foldl (fun listed one => listed ++ [one]) kept = kept ++ items := by
    intro items
    induction items with
    | nil => exact fun kept => (List.append_nil kept).symm
    | cons first rest ih =>
      intro kept
      rw [List.foldl_cons, ih, List.append_assoc, List.singleton_append]
  rw [lookup_grouped, lookup_gather, listed, List.nil_append, ofSection]

/-- Sorted keys that are each there once increase. -/
theorem increasing_sortBy {keys : List String} (distinct : keys.Nodup) :
    (sortBy id keys).Pairwise (· < ·) := by
  have sorted := stablySorted_sortBy (@id String) keys
  exact (sorted.ordered.and (sorted.perm.nodup_iff.mpr distinct)).imp
    fun ⟨ordered, differ⟩ => lt_of_le_of_ne ordered differ

/-- The source of the tasks shows each once. Its projects and their sections are those that have a
task, in the order of their names; what they show, put together, is all tasks in a stable order by
project, section, falling priority and day. -/
theorem todoistLines_complete (tasks : List Task) :
    ∃ (projects : List String) (sections : String → List String)
      (shown : String → String → List Task),
      (projects.Pairwise (· < ·) ∧ ∀ pname, pname ∈ projects ↔
        ∃ task ∈ tasks, projectOf task = pname) ∧
      (∀ pname, (sections pname).Pairwise (· < ·) ∧ ∀ sname, sname ∈ sections pname ↔
        ∃ task ∈ tasks, projectOf task = pname ∧ sectionOf task = sname) ∧
      (∀ pname sname, ∀ task ∈ shown pname sname,
        projectOf task = pname ∧ sectionOf task = sname) ∧
      StablySorted sourceKey tasks
        (projects.flatMap fun pname => (sections pname).flatMap fun sname => shown pname sname) ∧
      todoistLines tasks = ["# Todoist Active Tasks", ""] ++ projects.flatMap fun pname =>
        ["## " ++ pname] ++ ((sections pname).flatMap fun sname =>
          (if sname ≠ "" then ["### " ++ sname] else []) ++
            (shown pname sname).flatMap taskLines) ++ [""] := by
  have projectKeys := keys_gather addToSection [] projectOf tasks
  have sectionKeys := fun pname => keys_gather (fun listed one => listed ++ [one]) []
    sectionOf (ofProject tasks pname)
  refine ⟨sortBy id ((grouped tasks).map Prod.fst),
    fun pname => sortBy id ((((grouped tasks).lookup pname).getD []).map Prod.fst),
    fun pname sname => sortBy urgencyKey (ofSection tasks pname sname), ⟨?_, ?_⟩, ?_, ?_, ?_, ?_⟩
  · exact increasing_sortBy projectKeys.1
  · intro pname
    rw [(stablySorted_sortBy (@id String) _).perm.mem_iff, grouped, projectKeys.2, List.mem_map]
  · intro pname
    dsimp only
    rw [lookup_grouped]
    refine ⟨increasing_sortBy (sectionKeys pname).1, fun sname => ?_⟩
    rw [(stablySorted_sortBy (@id String) _).perm.mem_iff, (sectionKeys pname).2, List.mem_map]
    simp only [ofProject, List.mem_filter, decide_eq_true_eq, and_assoc]
  · intro pname sname task member
    have inside := (stablySorted_sortBy urgencyKey _).perm.mem_iff.mp member
    have ⟨ofP, isS⟩ := List.mem_filter.mp inside
    exact ⟨of_decide_eq_true (List.mem_filter.mp ofP).2, of_decide_eq_true isS⟩
  · have inner : ∀ pname, ((sortBy id ((((grouped tasks).lookup pname).getD []).map
        Prod.fst)).flatMap fun sname => sortBy urgencyKey (ofSection tasks pname sname)) =
        sortBy (fun task => toLex (sectionOf task, urgencyKey task)) (ofProject tasks pname) := by
      intro pname
      rw [lookup_grouped]
      exact flatMap_groups (sectionKeys pname).1 fun task inside =>
        ((sectionKeys pname).2 _).mpr (List.mem_map_of_mem inside)
    simp only [inner]
    have outer : ((sortBy id ((grouped tasks).map Prod.fst)).flatMap fun pname =>
        sortBy (fun task => toLex (sectionOf task, urgencyKey task)) (ofProject tasks pname)) =
        sortBy sourceKey tasks :=
      flatMap_groups projectKeys.1 fun task inside =>
        (projectKeys.2 _).mpr (List.mem_map_of_mem inside)
    rw [outer]
    exact stablySorted_sortBy sourceKey tasks
  · simp only [todoistLines, projectLines, sectionLines, lookup_sections]

/-- A call that fails. -/
inductive Failure where
  /-- `RPCError`. -/
  | rpc (message : String)
  /-- Any other exception. -/
  | other (exc : PyException)

/-- A source of a notebook. -/
structure Source where
  /-- `id`. -/
  id : String
  /-- The title. -/
  title : String
  /-- The text. -/
  text : String
  deriving DecidableEq, Repr

/-- The client of the notebook service, whose state is `σ`. -/
structure NotebookClient (σ : Type) where
  /-- `notebooks.create`: the id of a new notebook. -/
  create : String → σ → Except Failure String × σ
  /-- `sources.list`: the ids of the sources. -/
  listSources : String → σ → Except Failure (List String) × σ
  /-- `sources.delete`. -/
  delete : String → String → σ → Except Failure Unit × σ
  /-- `sources.add_text`. -/
  addText : String → String → String → σ → Except Failure Unit × σ

/-- What the sync reads before it connects. -/
structure Inputs where
  /-- `notion_root_page_id`. -/
  notionRootPageId : String
  /-- `notebooklm_notebook_id`. -/
  notebooklmNotebookId : String
  /-- `notebooklm_notebook_name`. -/
  notebooklmNotebookName : String
  /-- `todoist_api_token`. -/
  todoistApiToken : String
  /-- The reads of Notion. -/
  notion : NotionReads
  /-- The answer of `get_tasks`. -/
  tasks : Except PyException (List Task)

/-- The result of a sync. -/
structure SyncResult where
  /-- `added`. -/
  added : Nat
  /-- `deleted`. -/
  deleted : Nat
  /-- `notebook_id`. -/
  notebookId : String
  deriving DecidableEq, Repr

variable {σ : Type} (client : NotebookClient σ)

/-- The sources of the listing are deleted one by one. -/
def deleteEach (nbId : String) : List String → Nat → σ → Except PyException Nat × σ
  | [], deleted, state => (.ok deleted, state)
  | src :: rest, deleted, state =>
    match client.delete nbId src state with
    | (.ok (), after) => deleteEach nbId rest (deleted + 1) after
    | (.error (.rpc _), after) => deleteEach nbId rest deleted after
    | (.error (.other exc), after) => (.error exc, after)

/-- The existing sources are removed. -/
def removeExisting (nbId : String) (state : σ) : Except PyException Nat × σ :=
  match client.listSources nbId state with
  | (.ok existing, after) => deleteEach client nbId existing 0 after
  | (.error (.rpc _), after) => (.ok 0, after)
  | (.error (.other exc), after) => (.error exc, after)

/-- The bundles are added one by one, those without text left out. -/
def addEach (nbId : String) : List SourceBundle → Nat → σ → Except PyException Nat × σ
  | [], added, state => (.ok added, state)
  | bundle :: rest, added, state =>
    if strip bundle.fullText.toList = [] then addEach nbId rest added state
    else
      match client.addText nbId bundle.title bundle.fullText state with
      | (.ok (), after) => addEach nbId rest (added + 1) after
      | (.error (.rpc _), after) => addEach nbId rest added after
      | (.error (.other exc), after) => (.error exc, after)

/-- The notebook of the settings, or a new one. -/
def openNotebook (inputs : Inputs) (state : σ) : Except PyException String × σ :=
  if inputs.notebooklmNotebookId ≠ "" then (.ok inputs.notebooklmNotebookId, state)
  else
    let nbName :=
      if inputs.notebooklmNotebookName ≠ "" then inputs.notebooklmNotebookName else "VelaFlow"
    match client.create nbName state with
    | (.ok nbId, after) => (.ok nbId, after)
    | (.error (.rpc message), after) => (.error (.runtimeError
        ("Failed to create notebook '" ++ nbName ++ "': " ++ message)), after)
    | (.error (.other exc), after) => (.error exc, after)

/-- Steps two to four of the sync: the bundles replace the sources of the notebook. -/
def upload (inputs : Inputs) (rebuild : Bool) (bundles : List SourceBundle) (state : σ) :
    Except PyException SyncResult × σ :=
  match openNotebook client inputs state with
  | (.error exc, opened) => (.error exc, opened)
  | (.ok notebookId, opened) =>
    match if rebuild then removeExisting client notebookId opened else (.ok 0, opened) with
    | (.error exc, removed) => (.error exc, removed)
    | (.ok deleted, removed) =>
      match addEach client notebookId bundles 0 removed with
      | (.error exc, after) => (.error exc, after)
      | (.ok added, after) => (.ok { added, deleted, notebookId }, after)

/-- What the sync says where the package is not installed. -/
def notInstalled : String :=
  "\n".intercalate ["notebooklm-py is not installed.", "Install it with:",
    "    pip install 'notebooklm-py[browser]'", "    playwright install chromium",
    "Then authenticate once:", "    notebooklm login"]

/-- `_async_sync`, with what `from_storage` of the package returns, if it is installed. -/
def asyncSync (package : Option (Except PyException (NotebookClient σ))) (inputs : Inputs)
    (rebuild : Bool) (state : σ) : Except PyException SyncResult × σ :=
  match package with
  | none => (.error (.runtimeError notInstalled), state)
  | some fromStorage =>
    if inputs.notionRootPageId = "" then
      (.error (.valueError "NOTION_ROOT_PAGE_ID is not configured in config/.env."), state)
    else
      match buildSourceBundles inputs.notion inputs.notionRootPageId with
      | .error exc => (.error exc, state)
      | .ok [] => (.ok { added := 0, deleted := 0, notebookId := "" }, state)
      | .ok bundles =>
        let all := bundles ++ (buildTodoistBundle inputs.todoistApiToken inputs.tasks).toList
        match fromStorage with
        | .error exc => (.error exc, state)
        | .ok client => upload client inputs rebuild all state

/-- The title and the text of a source. -/
def Source.content (source : Source) : String × String := (source.title, source.text)

/-- What the service does with a notebook, by the sources that each state holds: a call that is
answered does what it says, a refused one nothing, and other notebooks are left alone. -/
structure Lawful (holds : σ → String → List Source) : Prop where
  /-- A new notebook is empty. -/
  created : ∀ {name nbId state after}, client.create name state = (.ok nbId, after) →
    holds after nbId = [] ∧ ∀ other, other ≠ nbId → holds after other = holds state other
  /-- The sources are listed. -/
  listed : ∀ {nbId ids state after}, client.listSources nbId state = (.ok ids, after) →
    ids = (holds state nbId).map Source.id
  /-- A listing changes nothing. -/
  unchanged : ∀ nbId state, holds (client.listSources nbId state).2 = holds state
  /-- A source is deleted. -/
  deleted : ∀ {nbId id state after}, client.delete nbId id state = (.ok (), after) →
    holds after nbId = (holds state nbId).filter fun source => decide (source.id ≠ id)
  /-- A refused deletion deletes nothing. -/
  kept : ∀ {nbId id state after message},
    client.delete nbId id state = (.error (.rpc message), after) →
    holds after nbId = holds state nbId
  /-- A text is added as a source of its own. -/
  added : ∀ {nbId title text state after}, client.addText nbId title text state = (.ok (), after) →
    ∃ id, holds after nbId = holds state nbId ++ [⟨id, title, text⟩]
  /-- A refused text is not added. -/
  refused : ∀ {nbId title text state after message},
    client.addText nbId title text state = (.error (.rpc message), after) →
    holds after nbId = holds state nbId
  /-- A deletion is about one notebook. -/
  deletedThere : ∀ nbId id state other, other ≠ nbId →
    holds (client.delete nbId id state).2 other = holds state other
  /-- An addition is about one notebook. -/
  addedThere : ∀ nbId title text state other, other ≠ nbId →
    holds (client.addText nbId title text state).2 other = holds state other

variable {client} {holds : σ → String → List Source}

/-- The sources with other ids than those that are gone. -/
def without (sources : List Source) (gone : List String) : List Source :=
  sources.filter fun source => decide (source.id ∉ gone)

/-- The loop of the deletions takes away some of the listed sources and counts them. -/
theorem deleteEach_ok (lawful : Lawful client holds) {nbId : String} {ids : List String}
    {deleted count : Nat} {state after : σ}
    (done : deleteEach client nbId ids deleted state = (.ok count, after)) :
    ∃ gone : List String, gone.Sublist ids ∧ count = deleted + gone.length ∧
      holds after nbId = without (holds state nbId) gone ∧
      ∀ other, other ≠ nbId → holds after other = holds state other := by
  induction ids generalizing deleted state with
  | nil =>
    have ⟨counted, same⟩ := Prod.mk.inj done
    refine ⟨[], List.Sublist.slnil, (Except.ok.inj counted).symm, ?_, fun other _ => by rw [same]⟩
    rw [same, without, List.filter_eq_self.mpr fun source _ => decide_eq_true List.not_mem_nil]
  | cons src rest ih =>
    have elsewhere := lawful.deletedThere nbId src state
    rw [deleteEach] at done
    cases answer : client.delete nbId src state with
    | mk outcome between =>
      rw [answer] at done elsewhere
      cases outcome with
      | ok value =>
        have ⟨gone, among, counted, left, apart⟩ := ih done
        refine ⟨src :: gone, among.cons_cons src, ?_, ?_, fun other differs =>
          (apart other differs).trans (elsewhere other differs)⟩
        · rw [counted, List.length_cons]
          omega
        · rw [left, lawful.deleted answer, without, List.filter_filter]
          refine List.filter_congr fun source _ => ?_
          rw [← Bool.decide_and, decide_eq_decide, List.mem_cons, not_or]
          exact and_comm
      | error failure =>
        cases failure with
        | other exc => cases done
        | rpc message =>
          have ⟨gone, among, counted, left, apart⟩ := ih done
          refine ⟨gone, among.cons src, counted, ?_, fun other differs =>
            (apart other differs).trans (elsewhere other differs)⟩
          rw [left, lawful.kept answer]

/-- What the sync has to add of some bundles. -/
def uploads (bundles : List SourceBundle) : List (String × String) :=
  (bundles.filter fun bundle => decide (strip bundle.fullText.toList ≠ [])).map fun bundle =>
    (bundle.title, bundle.fullText)

/-- The loop of the additions adds some of the texts, in order, and counts them. -/
theorem addEach_ok (lawful : Lawful client holds) {nbId : String} {bundles : List SourceBundle}
    {added count : Nat} {state after : σ}
    (done : addEach client nbId bundles added state = (.ok count, after)) :
    ∃ pushed : List (String × String), pushed.Sublist (uploads bundles) ∧
      count = added + pushed.length ∧
      (holds after nbId).map Source.content = (holds state nbId).map Source.content ++ pushed ∧
      ∀ other, other ≠ nbId → holds after other = holds state other := by
  induction bundles generalizing added state with
  | nil =>
    have ⟨counted, same⟩ := Prod.mk.inj done
    refine ⟨[], List.Sublist.slnil, (Except.ok.inj counted).symm, ?_, fun other _ => by rw [same]⟩
    rw [same, List.append_nil]
  | cons bundle rest ih =>
    have elsewhere := lawful.addedThere nbId bundle.title bundle.fullText state
    rw [addEach] at done
    by_cases blank : strip bundle.fullText.toList = []
    · rw [if_pos blank] at done
      have skipped : uploads (bundle :: rest) = uploads rest := by
        rw [uploads, List.filter_cons, if_neg (by rw [decide_eq_true_iff]; exact not_not.mpr blank)]
        rfl
      rw [skipped]
      exact ih done
    · rw [if_neg blank] at done
      have first : uploads (bundle :: rest) = (bundle.title, bundle.fullText) :: uploads rest := by
        rw [uploads, List.filter_cons, if_pos (decide_eq_true blank)]
        rfl
      rw [first]
      cases answer : client.addText nbId bundle.title bundle.fullText state with
      | mk outcome between =>
        rw [answer] at done elsewhere
        cases outcome with
        | ok value =>
          have ⟨pushed, among, counted, shown, apart⟩ := ih done
          have ⟨id, grown⟩ := lawful.added answer
          refine ⟨_ :: pushed, among.cons_cons _, ?_, ?_, fun other differs =>
            (apart other differs).trans (elsewhere other differs)⟩
          · rw [counted, List.length_cons]
            omega
          · rw [shown, grown, List.map_append, List.append_assoc]
            rfl
        | error failure =>
          cases failure with
          | other exc => cases done
          | rpc message =>
            have ⟨pushed, among, counted, shown, apart⟩ := ih done
            refine ⟨pushed, among.cons _, counted, ?_, fun other differs =>
              (apart other differs).trans (elsewhere other differs)⟩
            rw [shown, lawful.refused answer]

/-- The removal takes away some of the sources and counts them. -/
theorem removeExisting_ok (lawful : Lawful client holds) {nbId : String} {count : Nat}
    {state after : σ} (done : removeExisting client nbId state = (.ok count, after)) :
    ∃ gone : List String, gone.Sublist ((holds state nbId).map Source.id) ∧
      count = gone.length ∧ holds after nbId = without (holds state nbId) gone ∧
      ∀ other, other ≠ nbId → holds after other = holds state other := by
  have read := lawful.unchanged nbId state
  rw [removeExisting] at done
  cases answer : client.listSources nbId state with
  | mk outcome between =>
    rw [answer] at done read
    cases outcome with
    | ok existing =>
      have ⟨gone, among, counted, left, apart⟩ := deleteEach_ok lawful done
      rw [lawful.listed answer] at among
      rw [read] at left apart
      exact ⟨gone, among, counted.trans (Nat.zero_add _), left, apart⟩
    | error failure =>
      cases failure with
      | other exc => cases done
      | rpc message =>
        have ⟨counted, same⟩ := Prod.mk.inj done
        rw [← same, read]
        refine ⟨[], List.nil_sublist _, (Except.ok.inj counted).symm, ?_, fun other _ => rfl⟩
        rw [without, List.filter_eq_self.mpr fun source _ => decide_eq_true List.not_mem_nil]

/-- The sources of a notebook when the sync has opened it: a new one has none. -/
def sourcesBefore (holds : σ → String → List Source) (inputs : Inputs) (state : σ) : List Source :=
  if inputs.notebooklmNotebookId ≠ "" then holds state inputs.notebooklmNotebookId else []

/-- Opening a notebook changes no other. -/
theorem openNotebook_ok (lawful : Lawful client holds) {inputs : Inputs} {nbId : String}
    {state after : σ} (done : openNotebook client inputs state = (.ok nbId, after)) :
    holds after nbId = sourcesBefore holds inputs state ∧
      ∀ other, other ≠ nbId → holds after other = holds state other := by
  rw [openNotebook] at done
  rw [sourcesBefore]
  by_cases configured : inputs.notebooklmNotebookId ≠ ""
  · rw [if_pos configured] at done ⊢
    have ⟨is, same⟩ := Prod.mk.inj done
    rw [← same, ← Except.ok.inj is]
    exact ⟨rfl, fun other _ => rfl⟩
  · rw [if_neg configured] at done ⊢
    dsimp only at done
    split at done
    case h_1 answer =>
      have ⟨is, same⟩ := Prod.mk.inj done
      rw [← same, ← Except.ok.inj is]
      exact lawful.created answer
    case h_2 => cases done
    case h_3 => cases done

/-- What an upload does to the notebooks, whichever calls are refused. -/
theorem upload_ok (lawful : Lawful client holds) {inputs : Inputs} {rebuild : Bool}
    {bundles : List SourceBundle} {result : SyncResult} {state after : σ}
    (done : upload client inputs rebuild bundles state = (.ok result, after)) :
    ∃ (gone : List String) (pushed : List (String × String)),
      gone.Sublist ((sourcesBefore holds inputs state).map Source.id) ∧
      (rebuild = false → gone = []) ∧ pushed.Sublist (uploads bundles) ∧
      result.deleted = gone.length ∧ result.added = pushed.length ∧
      (holds after result.notebookId).map Source.content =
        (without (sourcesBefore holds inputs state) gone).map Source.content ++ pushed ∧
      ∀ other, other ≠ result.notebookId → holds after other = holds state other := by
  rw [upload] at done
  split at done
  case h_1 => cases done
  case h_2 notebookId opened openedIs =>
    have ⟨starts, apartOpened⟩ := openNotebook_ok lawful openedIs
    split at done
    case h_1 => cases done
    case h_2 deleted removed removedIs =>
      split at done
      case h_1 => cases done
      case h_2 added last addedIs =>
        have ⟨is, same⟩ := Prod.mk.inj done
        have ⟨pushed, among, counted, shown, apartAdded⟩ := addEach_ok lawful addedIs
        rw [← Except.ok.inj is, ← same]
        have removal : ∃ gone : List String,
            gone.Sublist ((holds opened notebookId).map Source.id) ∧
            (rebuild = false → gone = []) ∧ deleted = gone.length ∧
            holds removed notebookId = without (holds opened notebookId) gone ∧
            ∀ other, other ≠ notebookId → holds removed other = holds opened other := by
          cases rebuild with
          | true =>
            have ⟨gone, listed, many, left, apart⟩ := removeExisting_ok lawful removedIs
            exact ⟨gone, listed, fun no => (Bool.noConfusion no), many, left, apart⟩
          | false =>
            have ⟨zero, unmoved⟩ := Prod.mk.inj removedIs
            rw [← unmoved]
            refine ⟨[], List.nil_sublist _, fun _ => rfl, (Except.ok.inj zero).symm, ?_,
              fun other _ => rfl⟩
            rw [without, List.filter_eq_self.mpr fun source _ => decide_eq_true List.not_mem_nil]
        have ⟨gone, listed, idle, many, left, apartRemoved⟩ := removal
        rw [starts] at listed left
        rw [left] at shown
        exact ⟨gone, pushed, listed, idle, among, many, counted.trans (Nat.zero_add _), shown,
          fun other differs => (apartAdded other differs).trans
            ((apartRemoved other differs).trans (apartOpened other differs))⟩

/-- What the sync has to upload: the bundles of the workspace and that of the tasks. -/
def allUploads (inputs : Inputs) (bundles : List SourceBundle) : List (String × String) :=
  uploads (bundles ++ (buildTodoistBundle inputs.todoistApiToken inputs.tasks).toList)

/-- A sync that returns has read the workspace. -/
theorem asyncSync_inv {fromStorage : Except PyException (NotebookClient σ)} {inputs : Inputs}
    {rebuild : Bool} {result : SyncResult} {state after : σ}
    (done : asyncSync (some fromStorage) inputs rebuild state = (.ok result, after)) :
    ∃ bundles, buildSourceBundles inputs.notion inputs.notionRootPageId = .ok bundles ∧
      ((bundles = [] ∧ result = { added := 0, deleted := 0, notebookId := "" } ∧ after = state) ∨
        bundles ≠ [] ∧ ∃ client, fromStorage = .ok client ∧ upload client inputs rebuild
          (bundles ++ (buildTodoistBundle inputs.todoistApiToken inputs.tasks).toList) state =
            (.ok result, after)) := by
  rw [asyncSync] at done
  dsimp only at done
  split at done
  · cases done
  · split at done
    case h_1 => cases done
    case h_2 nothing =>
      have ⟨is, same⟩ := Prod.mk.inj done
      exact ⟨[], nothing, .inl ⟨rfl, (Except.ok.inj is).symm, same.symm⟩⟩
    case h_3 bundles some read =>
      cases fromStorage with
      | error exc => cases done
      | ok client => exact ⟨bundles, read, .inr ⟨some, client, rfl, done⟩⟩

/-- A service in memory: the sources of each notebook, and the next number. -/
structure Memory where
  /-- The number of the next notebook or source. -/
  next : Nat
  /-- The sources of a notebook. -/
  sources : String → List Source

/-- The state with other sources in a notebook. -/
def Memory.put (memory : Memory) (nbId : String) (sources : List Source) : Memory where
  next := memory.next + 1
  sources other := if other = nbId then sources else memory.sources other

/-- The client of the service in memory. -/
def memoryClient : NotebookClient Memory where
  create name memory :=
    (.ok (name ++ toString memory.next), memory.put (name ++ toString memory.next) [])
  listSources nbId memory := (.ok ((memory.sources nbId).map Source.id), memory)
  delete nbId id memory := (.ok (), memory.put nbId
    ((memory.sources nbId).filter fun source => decide (source.id ≠ id)))
  addText nbId title text memory := (.ok (), memory.put nbId
    (memory.sources nbId ++ [⟨toString memory.next, title, text⟩]))

/-- The service in memory does what its calls say. -/
theorem memoryClient_lawful : Lawful memoryClient Memory.sources where
  created := by
    intro name nbId state after answer
    have ⟨named, is⟩ := Prod.mk.inj answer
    rw [← is, ← Except.ok.inj named]
    exact ⟨if_pos rfl, fun other differs => if_neg differs⟩
  listed := fun answer => (Except.ok.inj (Prod.mk.inj answer).1).symm
  unchanged := fun _ _ => rfl
  deleted := by
    intro nbId id state after answer
    rw [← (Prod.mk.inj answer).2]
    exact if_pos rfl
  kept := by
    intro nbId id state after message answer
    cases (Prod.mk.inj answer).1
  added := by
    intro nbId title text state after answer
    rw [← (Prod.mk.inj answer).2]
    exact ⟨toString state.next, if_pos rfl⟩
  refused := by
    intro nbId title text state after message answer
    cases (Prod.mk.inj answer).1
  deletedThere := fun _ _ _ _ differs => if_neg differs
  addedThere := fun _ _ _ _ _ differs => if_neg differs

/-- A workspace with one database of one row. -/
def sampleInputs : Inputs where
  notionRootPageId := "root"
  notebooklmNotebookId := "kb"
  notebooklmNotebookName := ""
  todoistApiToken := ""
  notion := {
    paginateBlocks := fun _ => .ok [⟨"books", .childDatabase, [], none, some "Books"⟩]
    queryDatabase := fun _ => .ok [[("Name", .title [some "Emma"])]] }
  tasks := .ok []

/-- A notebook with a source of an earlier sync. -/
def sampleMemory : Memory where
  next := 1
  sources nbId := if nbId = "kb" then [⟨"0", "Books", "# Books (database)"⟩] else []

/-- Whichever calls the service refuses, a sync that returns leaves in its notebook the old sources
without those whose deletion it counts, then the texts whose addition it counts, in the order of the
workspace; no other notebook is touched. -/
theorem asyncSync_counts (lawful : Lawful client holds) {inputs : Inputs} {rebuild : Bool}
    {result : SyncResult} {state after : σ}
    (done : asyncSync (some (.ok client)) inputs rebuild state = (.ok result, after)) :
    ∃ bundles, buildSourceBundles inputs.notion inputs.notionRootPageId = .ok bundles ∧
      (bundles = [] → after = state) ∧
      (bundles ≠ [] → ∃ (gone : List String) (pushed : List (String × String)),
        gone.Sublist ((sourcesBefore holds inputs state).map Source.id) ∧
        (rebuild = false → gone = []) ∧ pushed.Sublist (allUploads inputs bundles) ∧
        result.deleted = gone.length ∧ result.added = pushed.length ∧
        (holds after result.notebookId).map Source.content =
          (without (sourcesBefore holds inputs state) gone).map Source.content ++ pushed ∧
        ∀ other, other ≠ result.notebookId → holds after other = holds state other) := by
  have ⟨bundles, read, ends⟩ := asyncSync_inv done
  refine ⟨bundles, read, fun blank => ?_, fun filled => ?_⟩
  · cases ends with
    | inl early => exact early.2.2
    | inr late => exact absurd blank late.1
  · cases ends with
    | inl early => exact absurd early.1 filled
    | inr late =>
      have ⟨_, _, connected, uploaded⟩ := late
      rw [← Except.ok.inj connected] at uploaded
      exact upload_ok lawful uploaded

/-- A sync that adds to what a notebook holds. -/
theorem asyncSync_counts_sample :
    ∃ bundles, buildSourceBundles sampleInputs.notion sampleInputs.notionRootPageId = .ok bundles ∧
      (bundles = [] →
        (asyncSync (some (.ok memoryClient)) sampleInputs false sampleMemory).2 = sampleMemory) ∧
      (bundles ≠ [] → ∃ (gone : List String) (pushed : List (String × String)),
        gone.Sublist ((sourcesBefore Memory.sources sampleInputs sampleMemory).map Source.id) ∧
        (false = false → gone = []) ∧ pushed.Sublist (allUploads sampleInputs bundles) ∧
        0 = gone.length ∧ 1 = pushed.length ∧
        ((asyncSync (some (.ok memoryClient)) sampleInputs false sampleMemory).2.sources "kb").map
            Source.content =
          (without (sourcesBefore Memory.sources sampleInputs sampleMemory) gone).map
            Source.content ++ pushed ∧
        ∀ other, other ≠ "kb" →
          (asyncSync (some (.ok memoryClient)) sampleInputs false sampleMemory).2.sources other =
            sampleMemory.sources other) :=
  have done : asyncSync (some (.ok memoryClient)) sampleInputs false sampleMemory =
      (.ok { added := 1, deleted := 0, notebookId := "kb" },
        (asyncSync (some (.ok memoryClient)) sampleInputs false sampleMemory).2) := by
    rfl
  asyncSync_counts memoryClient_lawful done

end VelaFlow.Notebook
