import Mathlib.Data.List.Forall2
import VelaFlow.Foundation.Python
import VelaFlow.Foundation.Outline

/-!
# The text of a Notion workspace

Each direct child of the root page becomes one source: a database with its rows, or a page with all
that hangs below it, written out in document order down to four levels. What the service cannot give
leaves a note in its place, and a page below the last level leaves a note that it was skipped.
-/
namespace VelaFlow.Notebook

/-- The most characters a source holds. -/
def maxSourceChars : Nat := 200000

/-- The last level whose pages are read. -/
def maxDepth : Nat := 4

/-- The most rows of a database a source shows. -/
def maxDbRows : Nat := 200

/-- A rich text: the `plain_text` of each of its segments. -/
abbrev RichText := List (Option String)

/-- The plain texts of the segments, joined. -/
def rt (richText : RichText) : String := String.join (richText.map (·.getD ""))

/-- The types of a block. -/
inductive BlockType where
  /-- `heading_1`. -/
  | heading1
  /-- `heading_2`. -/
  | heading2
  /-- `heading_3`. -/
  | heading3
  /-- `paragraph`. -/
  | paragraph
  /-- `bulleted_list_item`. -/
  | bulletedListItem
  /-- `numbered_list_item`. -/
  | numberedListItem
  /-- `quote`. -/
  | quote
  /-- `callout`. -/
  | callout
  /-- `toggle`. -/
  | toggle
  /-- `code`. -/
  | code
  /-- `divider`. -/
  | divider
  /-- `child_page`. -/
  | childPage
  /-- `child_database`. -/
  | childDatabase
  /-- Any other type, or none. -/
  | other
  deriving DecidableEq, Repr

/-- A block, with what its type's own object holds. -/
structure Block where
  /-- `id`. -/
  id : String
  /-- `type`. -/
  type : BlockType
  /-- `rich_text`. -/
  richText : RichText
  /-- `language`. -/
  language : Option String
  /-- `title`. -/
  title : Option String
  deriving Repr

/-- A property of a database row. -/
inductive RowProperty where
  /-- `title`. -/
  | title (text : RichText)
  /-- `rich_text`. -/
  | richText (text : RichText)
  /-- `select`, with the option's name. -/
  | select (name : Option String)
  /-- `multi_select`, with the options' names. -/
  | multiSelect (names : List (Option String))
  /-- `date`, with its start. -/
  | date (start : Option String)
  /-- `number` or `checkbox`, as `str` prints the value. -/
  | printed (value : String)
  /-- `url`. -/
  | url (address : Option String)
  /-- Any other type, or none. -/
  | other
  deriving Repr

/-- A database row: its properties, in order. -/
abbrev Row := List (String × RowProperty)

/-- The reads of the Notion service. -/
structure NotionReads where
  /-- `_paginate_blocks`: the blocks of a page. -/
  paginateBlocks : String → Except PyException (List Block)
  /-- `_query_database`: the rows of a database. -/
  queryDatabase : String → Except PyException (List Row)

/-- The Markdown of a block; a child page, a child database and an unsupported type have none. -/
def blockLine (blk : Block) : Option String :=
  let text := rt blk.richText
  match blk.type with
  | .heading1 => some ("# " ++ text)
  | .heading2 => some ("## " ++ text)
  | .heading3 => some ("### " ++ text)
  | .paragraph => some text
  | .bulletedListItem => some ("- " ++ text)
  | .numberedListItem => some ("1. " ++ text)
  | .quote | .callout => some ("> " ++ text)
  | .toggle => some ("**" ++ text ++ "**")
  | .code => some ("```" ++ blk.language.getD "" ++ "\n" ++ text ++ "\n```")
  | .divider => some "---"
  | .childPage | .childDatabase | .other => none

/-- `_blocks_to_md`. -/
def blocksToMd (blocks : List Block) : String := "\n".intercalate (blocks.filterMap blockLine)

/-- The text of a property. -/
def RowProperty.text : RowProperty → String
  | title text | richText text => rt text
  | select name => name.getD ""
  | multiSelect names => ", ".intercalate (names.map (·.getD ""))
  | date start => start.getD ""
  | printed value => value
  | url address => address.getD ""
  | other => ""

/-- `_db_entry_to_text`. -/
def dbEntryToText (entry : Row) : String :=
  " | ".intercalate <| entry.filterMap fun property =>
    if property.2.text ≠ "" then some (property.1 ++ ": " ++ property.2.text) else none

/-- A heading at a depth. -/
def heading (depth : Nat) (title : String) : String :=
  String.ofList (List.replicate (min depth 6) '#') ++ " " ++ title

/-- The lines of the rows a source shows. -/
def rowLines (rows : List Row) : List String :=
  (rows.take maxDbRows).filterMap fun row =>
    if dbEntryToText row ≠ "" then some ("- " ++ dbEntryToText row) else none

/-- The text of a child database of a page, at its own depth. -/
def childDatabaseMd (client : NotionReads) (id dbTitle : String) (depth : Nat) : String :=
  let first := heading depth dbTitle ++ " (database)"
  "\n".intercalate <| match client.queryDatabase id with
    | .ok rows => first :: rowLines rows
    | .error _ => [first, "_(database unavailable)_"]

/-- `_extract_page_md`. -/
def extractPageMd (client : NotionReads) (pageId title : String) (depth : Nat) : String :=
  if depth > maxDepth then
    heading depth title ++ "\n_(subpage skipped — max depth reached)_"
  else
    match client.paginateBlocks pageId with
    | .error _ => heading depth title ++ "\n_(content unavailable)_"
    | .ok blocks =>
      let flatMd := blocksToMd blocks
      let parts := heading depth title :: if strip flatMd.toList ≠ [] then [flatMd] else []
      "\n\n".intercalate <| parts ++ blocks.filterMap fun blk =>
        match blk.type with
        | .childPage =>
          let childMd := extractPageMd client blk.id (blk.title.getD "Untitled") (depth + 1)
          if childMd ≠ "" then some childMd else none
        | .childDatabase =>
          some (childDatabaseMd client blk.id (blk.title.getD "Database") (depth + 1))
        | _ => none
  termination_by maxDepth + 1 - depth

/-- `_SourceBundle`. -/
structure SourceBundle where
  /-- `title`. -/
  title : String
  /-- `sections`. -/
  sections : List String
  deriving DecidableEq, Repr

/-- `_SourceBundle.full_text`. -/
def SourceBundle.fullText (bundle : SourceBundle) : String :=
  String.ofList (("\n\n".intercalate bundle.sections).toList.take maxSourceChars)

/-- The source of a database that is a direct child of the root. -/
def databaseBundle (client : NotionReads) (id title : String) : SourceBundle :=
  let first := "# " ++ title ++ " (database)"
  let parts := match client.queryDatabase id with
    | .ok rows => first :: rowLines rows
    | .error _ => [first]
  { title, sections := ["\n".intercalate parts] }

/-- The source that a block of the root page makes. -/
def childBundle (client : NotionReads) (blk : Block) : Option SourceBundle :=
  match blk.type with
  | .childPage =>
    let title := blk.title.getD "Untitled"
    some { title, sections := [extractPageMd client blk.id title 1] }
  | .childDatabase => some (databaseBundle client blk.id (blk.title.getD "Database"))
  | _ => none

/-- `build_source_bundles`. -/
def buildSourceBundles (client : NotionReads) (rootPageId : String) :
    Except PyException (List SourceBundle) :=
  match client.paginateBlocks rootPageId with
  | .error exc => .error (.runtimeError
      ("Cannot read root Notion page " ++ rootPageId ++ ": " ++ exc.text))
  | .ok rootBlocks => .ok (rootBlocks.filterMap (childBundle client))

/-- What is written out: a page or a database, by its id and title. -/
inductive Node where
  /-- A page. -/
  | page (id title : String)
  /-- A database. -/
  | database (id title : String)
  deriving DecidableEq, Repr

/-- The page or database that a block holds. -/
def Block.node (blk : Block) : Option Node :=
  match blk.type with
  | .childPage => some (.page blk.id (blk.title.getD "Untitled"))
  | .childDatabase => some (.database blk.id (blk.title.getD "Database"))
  | _ => none

/-- What the blocks of a page hold; a database, and a page that cannot be read, hold nothing. -/
def children (client : NotionReads) : Node → List (Option Node)
  | .page id _ =>
    match client.paginateBlocks id with
    | .error _ => []
    | .ok blocks => blocks.map Block.node
  | .database _ _ => []

/-- What is written of a page or a database itself. -/
def ownParts (client : NotionReads) (depth : Nat) : Node → List String
  | .page id title =>
    if depth > maxDepth then [heading depth title ++ "\n_(subpage skipped — max depth reached)_"]
    else
      match client.paginateBlocks id with
      | .error _ => [heading depth title ++ "\n_(content unavailable)_"]
      | .ok blocks => heading depth title ::
          if strip (blocksToMd blocks).toList ≠ [] then [blocksToMd blocks] else []
  | .database id title => [childDatabaseMd client id title depth]

/-- A heading stands before its title. -/
theorem heading_ne_empty (depth : Nat) (title : String) : heading depth title ≠ "" := by
  intro blank
  have none := congrArg String.toList blank
  simp [heading] at none

/-- Joined parts are not empty where the first is not. -/
theorem intercalate_ne_empty {separator first : String} (filled : first ≠ "")
    (rest : List String) : separator.intercalate (first :: rest) ≠ "" := by
  cases rest with
  | nil => rwa [String.intercalate_singleton]
  | cons next others =>
    rw [String.intercalate_cons_cons]
    intro blank
    have none := congrArg String.toList blank
    simp only [String.toList_append, List.append_assoc, String.toList_empty,
      List.append_eq_nil_iff] at none
    exact filled (String.toList_inj.mp none.1)

/-- A part that is itself joined is joined with the others. -/
theorem intercalate_nested (separator : String) {front group : List String} (opened : front ≠ [])
    (some : group ≠ []) (rest : List String) :
    separator.intercalate (front ++ separator.intercalate group :: rest) =
      separator.intercalate (front ++ (group ++ rest)) := by
  have inner : separator.intercalate (separator.intercalate group :: rest) =
      separator.intercalate (group ++ rest) := by
    cases rest with
    | nil => rw [String.intercalate_singleton, List.append_nil]
    | cons next others =>
      rw [String.intercalate_cons_of_ne_nil (List.cons_ne_nil _ _),
        String.intercalate_append_of_ne_nil some (List.cons_ne_nil _ _)]
  rw [String.intercalate_append_of_ne_nil opened (List.cons_ne_nil _ _), inner,
    String.intercalate_append_of_ne_nil opened (List.append_ne_nil_of_left_ne_nil some rest)]

/-- Items that each add their joined parts, where they have any, add all their parts. -/
theorem intercalate_filterMap {α : Type} {separator : String} {text : α → Option String}
    {parts : α → List String} {items : List α}
    (agree : ∀ item ∈ items, (parts item = [] ∧ text item = none) ∨
      (parts item ≠ [] ∧ text item = some (separator.intercalate (parts item))))
    {front : List String} (opened : front ≠ []) :
    separator.intercalate (front ++ items.filterMap text) =
      separator.intercalate (front ++ items.flatMap parts) := by
  induction items generalizing front with
  | nil => rfl
  | cons first rest ih =>
    have later := fun item member => agree item (List.mem_cons_of_mem first member)
    rw [List.flatMap_cons]
    cases agree first List.mem_cons_self with
    | inl nothing =>
      rw [nothing.1, List.nil_append, List.filterMap_cons_none nothing.2]
      exact ih later opened
    | inr something =>
      rw [List.filterMap_cons_some something.2,
        intercalate_nested separator opened something.1, ← List.append_assoc, ← List.append_assoc]
      exact ih later (List.append_ne_nil_of_left_ne_nil opened _)

/-- Each place writes something. -/
theorem ownParts_ne_nil (client : NotionReads) (depth : Nat) (node : Node) :
    ownParts client depth node ≠ [] := by
  cases node with
  | database id title => exact List.cons_ne_nil _ _
  | page id title =>
    rw [ownParts]
    split
    · exact List.cons_ne_nil _ _
    · split <;> exact List.cons_ne_nil _ _

/-- The text of a page begins with its heading. -/
theorem extractPageMd_ne_empty (client : NotionReads) (pageId title : String) (depth : Nat) :
    extractPageMd client pageId title depth ≠ "" := by
  have opens := heading_ne_empty depth title
  have noted : ∀ note, heading depth title ++ note ≠ "" := fun note blank =>
    opens (String.append_eq_empty_iff.mp blank).1
  rw [extractPageMd]
  split
  · exact noted _
  · split
    · exact noted _
    · exact intercalate_ne_empty opens _

/-- What is written from a node down to a number of levels. -/
def outlineParts (client : NotionReads) (depth levels : Nat) (node : Node) : List String :=
  (outline (children client) levels node).flatMap fun place =>
    ownParts client (depth + place.1.length) place.2

/-- A node writes itself first. -/
theorem outlineParts_succ (client : NotionReads) (depth levels : Nat) (node : Node) :
    outlineParts client depth (levels + 1) node = ownParts client depth node ++
      (children client node).flatMap fun child => child.toList.flatMap fun below =>
        outlineParts client (depth + 1) levels below := by
  rw [outlineParts, flatMap_outline levels node fun level other =>
    ownParts client (depth + level) other]
  simp only [outlineParts, Nat.add_zero, Nat.add_assoc, Nat.add_comm 1]

/-- From a node down, something is written. -/
theorem outlineParts_ne_nil (client : NotionReads) (depth levels : Nat) (node : Node) :
    outlineParts client depth levels node ≠ [] := by
  cases levels with
  | zero =>
    rw [outlineParts, outline, List.flatMap_singleton]
    exact ownParts_ne_nil client _ node
  | succ levels =>
    rw [outlineParts_succ]
    exact List.append_ne_nil_of_left_ne_nil (ownParts_ne_nil client depth node) _

/-- A database holds nothing below it. -/
theorem outlineParts_database (client : NotionReads) (depth levels : Nat) (id title : String) :
    outlineParts client depth levels (.database id title) =
      [childDatabaseMd client id title depth] := by
  cases levels with
  | zero => rfl
  | succ levels => rw [outlineParts_succ]; rfl

/-- The text of a page is what its outline writes. -/
theorem extractPageMd_eq (client : NotionReads) {depth levels : Nat}
    (left : depth + levels = maxDepth + 1) (pageId title : String) :
    extractPageMd client pageId title depth =
      "\n\n".intercalate (outlineParts client depth levels (.page pageId title)) := by
  induction levels generalizing depth pageId title with
  | zero =>
    have beyond : depth > maxDepth := by omega
    rw [extractPageMd, if_pos beyond, outlineParts, outline, List.flatMap_singleton, ownParts,
      List.length_nil, Nat.add_zero, if_pos beyond, String.intercalate_singleton]
  | succ levels ih =>
    have within : ¬ depth > maxDepth := by omega
    rw [extractPageMd, if_neg within, outlineParts_succ, ownParts, if_neg within, children]
    cases client.paginateBlocks pageId with
    | error exc => rw [List.flatMap_nil, List.append_nil, String.intercalate_singleton]
    | ok blocks =>
      dsimp only
      rw [List.flatMap_map]
      apply intercalate_filterMap _ (List.cons_ne_nil _ _)
      intro blk _
      have deeper : depth + 1 + levels = maxDepth + 1 := by omega
      by_cases page : blk.type = .childPage
      · have writes := ih deeper blk.id (blk.title.getD "Untitled")
        have filled := outlineParts_ne_nil client (depth + 1) levels
          (.page blk.id (blk.title.getD "Untitled"))
        have shown : extractPageMd client blk.id (blk.title.getD "Untitled") (depth + 1) ≠ "" :=
          extractPageMd_ne_empty client _ _ _
        rw [Block.node, page]
        dsimp only
        rw [Option.toList_some, List.flatMap_singleton, if_pos shown, ← writes]
        exact .inr ⟨filled, rfl⟩
      · by_cases database : blk.type = .childDatabase
        · rw [Block.node, database]
          dsimp only
          rw [Option.toList_some, List.flatMap_singleton, outlineParts_database,
            String.intercalate_singleton]
          exact .inr ⟨List.cons_ne_nil _ _, rfl⟩
        · refine .inl ?_
          rw [Block.node]
          cases kind : blk.type <;> simp_all

/-- What `build_source_bundles` makes of a direct child of the root: of a database its rows, of a
page the parts of all places that at most four links reach from it, in document order. -/
def Exports (client : NotionReads) : Node → SourceBundle → Prop
  | .page id title, bundle => ∃ places : List (List Nat × Node),
      places.Pairwise (fun one other => one.1 < other.1) ∧
      (∀ path node, (path, node) ∈ places ↔
        path.length ≤ maxDepth ∧ follow (children client) (.page id title) path = some node) ∧
      bundle = { title, sections := ["\n\n".intercalate <| places.flatMap fun place =>
        ownParts client (place.1.length + 1) place.2] }
  | .database id title, bundle => bundle = databaseBundle client id title

/-- The source of a direct child of the root. -/
def Node.bundle (client : NotionReads) : Node → SourceBundle
  | .page id title => { title, sections := [extractPageMd client id title 1] }
  | .database id title => databaseBundle client id title

/-- What is exported of a node is its source. -/
theorem exports_iff {client : NotionReads} {node : Node} {bundle : SourceBundle} :
    Exports client node bundle ↔ node.bundle client = bundle := by
  cases node with
  | database id title => exact eq_comm
  | page id title =>
    have writes := extractPageMd_eq client (rfl : 1 + maxDepth = maxDepth + 1) id title
    rw [Node.bundle, Exports, writes, outlineParts]
    simp only [Nat.add_comm 1]
    constructor
    · intro ⟨places, sorted, reached, is⟩
      rw [is, eq_outline sorted reached]
    · intro is
      exact ⟨_, outline_sorted maxDepth _, fun path target => mem_outline, is.symm⟩

/-- The sources are made of the children of the root, in order. -/
theorem buildSourceBundles_of_ok {client : NotionReads} {rootPageId : String}
    {rootBlocks : List Block} (read : client.paginateBlocks rootPageId = .ok rootBlocks) :
    buildSourceBundles client rootPageId =
      .ok ((rootBlocks.filterMap Block.node).map (Node.bundle client)) := by
  have made : childBundle client = fun blk => blk.node.map (Node.bundle client) := by
    funext blk
    rw [Block.node, childBundle]
    cases blk.type <;> rfl
  rw [buildSourceBundles, read, List.map_filterMap, made]

/-- The sources of a workspace are, child by child of the root page, what these export; there are
none only where the root page cannot be read. -/
theorem buildSourceBundles_ok_iff (client : NotionReads) (rootPageId : String)
    (bundles : List SourceBundle) : buildSourceBundles client rootPageId = .ok bundles ↔
      ∃ rootBlocks, client.paginateBlocks rootPageId = .ok rootBlocks ∧
        List.Forall₂ (Exports client) (rootBlocks.filterMap Block.node) bundles := by
  cases read : client.paginateBlocks rootPageId with
  | error exc =>
    rw [buildSourceBundles, read]
    constructor
    · intro made
      cases made
    · intro ⟨_, made, _⟩
      cases made
  | ok rootBlocks =>
    have determined : ∀ nodes : List Node, List.Forall₂ (Exports client) nodes bundles ↔
        nodes.map (Node.bundle client) = bundles := by
      intro nodes
      rw [← List.forall₂_eq_eq_eq, List.forall₂_map_left_iff]
      exact Iff.of_eq (congrArg (List.Forall₂ · nodes bundles)
        (funext fun node => funext fun bundle => propext exports_iff))
    rw [buildSourceBundles_of_ok read, Except.ok.injEq]
    constructor
    · intro made
      exact ⟨rootBlocks, rfl, (determined _).mpr made⟩
    · intro ⟨others, same, exported⟩
      rw [← Except.ok.inj same] at exported
      exact (determined _).mp exported

end VelaFlow.Notebook
