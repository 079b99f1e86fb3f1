import Mathlib.Data.List.Infix

/-!
# File systems with symbolic links

Places are named from the root, and a path is a list of steps down to a name or up to the directory
above. Resolving a path follows the links it passes, each from the directory the link is in or from
the root. The kernel only goes on from a directory; `realpath` takes a name that is not there for a
name that is no link. Links that lead to one another without end are given up after a number of
nested links. What a path resolves to is settled: no part of it is a link.
-/
namespace VelaFlow

variable {N B : Type}

/-- One part of a path. -/
inductive PathStep (N : Type) where
  /-- `..`. -/
  | up
  /-- A name. -/
  | down (name : N)
  deriving DecidableEq

/-- What a symbolic link holds. -/
structure LinkTarget (N : Type) where
  /-- The target starts at the root. -/
  absolute : Bool
  /-- The parts of the target. -/
  steps : List (PathStep N)

/-- What is at a place. -/
inductive Node (N B : Type) where
  /-- A directory. -/
  | directory
  /-- A file with its content. -/
  | file (content : B)
  /-- A symbolic link. -/
  | link (target : LinkTarget N)

section Resolution

variable (enters : List N → Bool) (links : List N → Option (LinkTarget N))

/-- Where a path leads from a place, given from where it may go on and where the target of a link
leads. -/
def walk (follow : List N → List (PathStep N) → Option (List N)) :
    List N → List (PathStep N) → Option (List N)
  | place, [] => some place
  | place, .up :: rest => if enters place then walk follow place.dropLast rest else none
  | place, .down name :: rest =>
    if enters place then
      match links (place ++ [name]) with
      | none => walk follow (place ++ [name]) rest
      | some target =>
        (follow (if target.absolute then [] else place) target.steps).bind fun reached =>
          walk follow reached rest
    else none

/-- Where a path leads from a place, when at most so many links are nested. -/
def resolveLinks : Nat → List N → List (PathStep N) → Option (List N)
  | 0 => walk enters links fun _ _ => none
  | nesting + 1 => walk enters links (resolveLinks nesting)

/-- No part of a place is a link. -/
def Settled (place : List N) : Prop :=
  ∀ front name, front ++ [name] <+: place → links (front ++ [name]) = none

variable {enters links}

/-- The root is settled. -/
theorem settled_root : Settled links [] := by
  intro front name inside
  rw [List.prefix_nil] at inside
  exact absurd inside (List.append_ne_nil_of_right_ne_nil front (List.cons_ne_nil name []))

/-- What a settled place is in is settled. -/
theorem Settled.of_prefix {place outer : List N} (settled : Settled links place)
    (inside : outer <+: place) : Settled links outer :=
  fun front name within => settled front name (within.trans inside)

/-- A name that is no link at a settled place leads to a settled place. -/
theorem Settled.snoc {place : List N} (settled : Settled links place) {name : N}
    (plain : links (place ++ [name]) = none) : Settled links (place ++ [name]) := by
  intro front other inside
  rw [List.prefix_concat_iff] at inside
  cases inside with
  | inl whole =>
    rw [whole]
    exact plain
  | inr within => exact settled front other within

variable {follow : List N → List (PathStep N) → Option (List N)}

/-- A path in two parts is resolved one after the other. -/
theorem walk_append (place : List N) (first second : List (PathStep N)) :
    walk enters links follow place (first ++ second) =
      (walk enters links follow place first).bind fun reached =>
        walk enters links follow reached second := by
  induction first generalizing place with
  | nil => rfl
  | cons step rest ih =>
    cases enter : enters place with
    | false => cases step <;> simp [walk, enter]
    | true =>
      cases step with
      | up =>
        simp only [List.cons_append, walk, enter, if_true]
        exact ih _
      | down name =>
        simp only [List.cons_append, walk, enter, if_true]
        cases links (place ++ [name]) with
        | none => exact ih _
        | some target =>
          dsimp only
          rw [Option.bind_assoc]
          congr 1
          funext reached
          exact ih reached

/-- A path leads from a settled place to a settled place when the targets of links do. -/
theorem settled_walk
    (follows : ∀ start steps reached, Settled links start → follow start steps = some reached →
      Settled links reached)
    {place : List N} (settled : Settled links place) {steps : List (PathStep N)} {reached : List N}
    (leads : walk enters links follow place steps = some reached) : Settled links reached := by
  induction steps generalizing place with
  | nil =>
    cases leads
    exact settled
  | cons step rest ih =>
    cases step with
    | up =>
      simp only [walk, Option.ite_none_right_eq_some] at leads
      exact ih (settled.of_prefix (List.dropLast_prefix place)) leads.2
    | down name =>
      simp only [walk, Option.ite_none_right_eq_some] at leads
      replace leads := leads.2
      cases found : links (place ++ [name]) with
      | none =>
        rw [found] at leads
        exact ih (settled.snoc found) leads
      | some target =>
        rw [found] at leads
        obtain ⟨middle, target_leads, rest_leads⟩ := Option.bind_eq_some_iff.mp leads
        have start : Settled links (if target.absolute then [] else place) := by
          split
          · exact settled_root
          · exact settled
        exact ih (follows _ _ _ start target_leads) rest_leads

/-- A path leads from a settled place to a settled place. -/
theorem settled_resolveLinks {nesting : Nat} {place : List N} (settled : Settled links place)
    {steps : List (PathStep N)} {reached : List N}
    (leads : resolveLinks enters links nesting place steps = some reached) :
    Settled links reached := by
  induction nesting generalizing place steps reached with
  | zero =>
    refine settled_walk (fun _ _ _ _ given => ?_) settled leads
    cases given
  | succ nesting ih =>
    exact settled_walk (fun _ _ _ start target => ih start target) settled leads

/-- A path in two parts is resolved one after the other. -/
theorem resolveLinks_append (nesting : Nat) (place : List N) (first second : List (PathStep N)) :
    resolveLinks enters links nesting place (first ++ second) =
      (resolveLinks enters links nesting place first).bind fun reached =>
        resolveLinks enters links nesting reached second := by
  cases nesting <;> exact walk_append place first second

/-- A path leads where it led when there are more places to go on from. -/
theorem walk_mono {more : List N → Bool}
    {further : List N → List (PathStep N) → Option (List N)}
    (grows : ∀ place, enters place = true → more place = true)
    (follows : ∀ start steps reached, follow start steps = some reached →
      further start steps = some reached)
    {place : List N} {steps : List (PathStep N)} {reached : List N}
    (leads : walk enters links follow place steps = some reached) :
    walk more links further place steps = some reached := by
  induction steps generalizing place with
  | nil => exact leads
  | cons step rest ih =>
    cases step with
    | up =>
      simp only [walk, Option.ite_none_right_eq_some] at leads
      simp only [walk, grows place leads.1, if_true]
      exact ih leads.2
    | down name =>
      simp only [walk, Option.ite_none_right_eq_some] at leads
      simp only [walk, grows place leads.1, if_true]
      replace leads := leads.2
      cases found : links (place ++ [name]) with
      | none =>
        rw [found] at leads
        exact ih leads
      | some target =>
        rw [found] at leads
        obtain ⟨middle, target_leads, rest_leads⟩ := Option.bind_eq_some_iff.mp leads
        exact Option.bind_eq_some_iff.mpr ⟨middle, follows _ _ _ target_leads, ih rest_leads⟩

/-- A path leads where it led when there are more places to go on from. -/
theorem resolveLinks_mono {more : List N → Bool}
    (grows : ∀ place, enters place = true → more place = true) {nesting : Nat} {place : List N}
    {steps : List (PathStep N)} {reached : List N}
    (leads : resolveLinks enters links nesting place steps = some reached) :
    resolveLinks more links nesting place steps = some reached := by
  induction nesting generalizing place steps reached with
  | zero => exact walk_mono grows (fun _ _ _ given => given) leads
  | succ nesting ih => exact walk_mono grows (fun _ _ _ target => ih target) leads

/-- Names that are no links are gone down one by one from directories. -/
theorem walk_of_settled {place names : List N} (settled : Settled links (place ++ names))
    (open_ : ∀ inner name, inner ++ [name] <+: names → enters (place ++ inner) = true) :
    walk enters links follow place (names.map .down) = some (place ++ names) := by
  induction names generalizing place with
  | nil => rw [List.append_nil]; rfl
  | cons name rest ih =>
    have shifted : place ++ name :: rest = place ++ [name] ++ rest := by
      rw [List.append_assoc, List.singleton_append]
    rw [shifted] at settled ⊢
    have plain := settled place name (List.prefix_append _ _)
    have here : enters place = true := by
      rw [← List.append_nil place]
      exact open_ [] name ((List.prefix_append [name] rest))
    simp only [List.map_cons, walk, plain, here, if_true]
    refine ih settled fun inner other inside => ?_
    rw [List.append_assoc]
    exact open_ ([name] ++ inner) other ((List.prefix_cons_inj name).mpr inside)

/-- Names that are no links are gone down one by one from directories. -/
theorem resolveLinks_of_settled {nesting : Nat} {place names : List N}
    (settled : Settled links (place ++ names))
    (open_ : ∀ inner name, inner ++ [name] <+: names → enters (place ++ inner) = true) :
    resolveLinks enters links nesting place (names.map .down) = some (place ++ names) := by
  cases nesting <;> exact walk_of_settled settled open_

end Resolution

/-- Whether there is a directory. -/
def isDirectoryNode : Option (Node N B) → Bool
  | some .directory => true
  | _ => false

/-- A file system: what is at each place, and how many links may be nested. -/
structure FileTree (N B : Type) where
  /-- What is at a place. -/
  node? : List N → Option (Node N B)
  /-- The root is a directory. -/
  root : isDirectoryNode (node? []) = true
  /-- What there is is in a directory. -/
  rooted : ∀ front name, (node? (front ++ [name])).isSome = true →
    isDirectoryNode (node? front) = true
  /-- How many links may be nested. -/
  nesting : Nat

/-- Why an operation of the kernel fails. -/
inductive FileError where
  /-- Something on the way is missing or no directory. -/
  | notFound
  /-- Something is there already. -/
  | alreadyExists
  /-- A directory cannot be written. -/
  | isADirectory
  deriving DecidableEq

namespace FileTree

variable (tree : FileTree N B)

/-- Whether a place is a directory. -/
def isDirectory (place : List N) : Bool := isDirectoryNode (tree.node? place)

/-- What the link at a place holds, when there is one. -/
def link? (place : List N) : Option (LinkTarget N) :=
  match tree.node? place with
  | some (.link target) => some target
  | _ => none

/-- `realpath`: where a path leads, whether it is there or not. -/
def real? (steps : List (PathStep N)) : Option (List N) :=
  resolveLinks (fun _ => true) tree.link? tree.nesting [] steps

/-- Where the kernel is led by a path. The last name may be missing. -/
def locate? (steps : List (PathStep N)) : Option (List N) :=
  resolveLinks tree.isDirectory tree.link? tree.nesting [] steps

/-- Whether a path leads to something. -/
def leads (steps : List (PathStep N)) : Bool :=
  match tree.locate? steps with
  | some place => (tree.node? place).isSome
  | none => false

/-- Whether a path leads to a directory. -/
def leadsToDirectory (steps : List (PathStep N)) : Bool :=
  match tree.locate? steps with
  | some place => tree.isDirectory place
  | none => false

/-- What the file holds that a path leads to, when it leads to one. -/
def readFile (steps : List (PathStep N)) : Option B :=
  match (tree.locate? steps).bind tree.node? with
  | some (.file content) => some content
  | _ => none

/-- Below the root alone there is nothing. -/
theorem bare_rooted (front : List N) (name : N)
    (there : (if (front ++ [name]).isEmpty then some (Node.directory : Node N B) else none).isSome =
      true) :
    isDirectoryNode (if front.isEmpty then some (Node.directory : Node N B) else none) = true := by
  have filled : (front ++ [name]).isEmpty = false := by simp
  rw [filled] at there
  cases there

/-- The root alone. -/
def bare (nesting : Nat) : FileTree N B where
  node? place := if place.isEmpty then some .directory else none
  root := rfl
  rooted := bare_rooted
  nesting := nesting

/-- The root is a name away from no place. -/
theorem nil_ne_snoc (front : List N) (name : N) : [] ≠ front ++ [name] :=
  (List.append_ne_nil_of_right_ne_nil front (List.cons_ne_nil name [])).symm

/-- A directory is no name below itself. -/
theorem ne_snoc_self (front : List N) (name : N) : front ≠ front ++ [name] := by
  intro same
  have lengths := congrArg List.length same
  rw [List.length_append, List.length_singleton] at lengths
  omega

/-- What a directory is in is a directory. -/
theorem isDirectory_of_prefix {tree : FileTree N B} {outer place : List N}
    (inside : outer <+: place) (directory : tree.isDirectory place = true) :
    tree.isDirectory outer = true := by
  obtain ⟨rest, rfl⟩ := inside
  induction rest using List.reverseRecOn with
  | nil => rwa [List.append_nil] at directory
  | append_singleton rest name ih =>
    apply ih
    rw [← List.append_assoc] at directory
    apply tree.rooted (outer ++ rest) name
    unfold isDirectory isDirectoryNode at directory
    split at directory
    · next found => rw [found]; rfl
    · cases directory

/-- The root stays when something is put below. -/
theorem put_root (front : List N) (name : N) (node : Node N B) :
    isDirectoryNode (if [] = front ++ [name] then some node else tree.node? []) = true := by
  rw [if_neg (nil_ne_snoc front name)]
  exact tree.root

/-- Where nothing is there is no directory. -/
theorem isDirectory_of_isNone {place : List N} (free : (tree.node? place).isNone = true) :
    tree.isDirectory place = false := by
  rw [Option.isNone_iff_eq_none] at free
  rw [isDirectory, free]
  rfl

/-- The last link a path of names passes, and where it leads: the root when it passes none. -/
structure LastLink (front rest place : List N) : Prop where
  /-- The names up to the link lead there. -/
  leads : tree.real? (front.map .down) = some place
  /-- They end in a link, unless there are none. -/
  ends : front = [] ∨ ∃ outer name start, front = outer ++ [name] ∧
    tree.real? (outer.map .down) = some start ∧ (tree.link? (start ++ [name])).isSome = true
  /-- No name after them is a link. -/
  plain : ∀ inner name, inner ++ [name] <+: rest → tree.link? (place ++ inner ++ [name]) = none

variable {tree}

/-- Where a path leads is settled. -/
theorem settled_real? {steps : List (PathStep N)} {place : List N}
    (leads : tree.real? steps = some place) : Settled tree.link? place :=
  settled_resolveLinks settled_root leads

/-- A settled place leads to itself. -/
theorem real?_of_settled {place : List N} (settled : Settled tree.link? place) :
    tree.real? (place.map .down) = some place :=
  @resolveLinks_of_settled N _ tree.link? tree.nesting [] place settled fun _ _ _ => rfl

/-- Names that are no links lead from a settled place to a settled place. -/
theorem settled_append {place rest : List N} (settled : Settled tree.link? place)
    (plain : ∀ inner name, inner ++ [name] <+: rest → tree.link? (place ++ inner ++ [name]) = none) :
    Settled tree.link? (place ++ rest) := by
  induction rest using List.reverseRecOn with
  | nil => rwa [List.append_nil]
  | append_singleton rest name ih =>
    rw [← List.append_assoc]
    apply Settled.snoc (ih fun inner other inside => ?_) (plain rest name List.prefix_rfl)
    exact plain inner other (inside.trans (List.prefix_append rest [name]))

/-- Where a path leads is where its last link leads, and on. -/
theorem real?_of_lastLink {front rest place : List N} (last : tree.LastLink front rest place) :
    tree.real? ((front ++ rest).map .down) = some (place ++ rest) := by
  rw [List.map_append, real?, resolveLinks_append]
  have first := last.leads
  rw [real?] at first
  rw [first, Option.bind_some]
  exact resolveLinks_of_settled (settled_append (settled_real? last.leads) last.plain)
    fun _ _ _ => rfl

/-- A path of names that leads somewhere has a last link. -/
theorem exists_lastLink {names location : List N}
    (leads : tree.real? (names.map .down) = some location) :
    ∃ front rest place, names = front ++ rest ∧ tree.LastLink front rest place := by
  induction names using List.reverseRecOn generalizing location with
  | nil =>
    refine ⟨[], [], location, rfl, leads, Or.inl rfl, fun inner name inside => ?_⟩
    exact absurd (List.prefix_nil.mp inside) (nil_ne_snoc inner name).symm
  | append_singleton outer name ih =>
    have parts := leads
    rw [List.map_append, real?, resolveLinks_append] at parts
    obtain ⟨start, before, -⟩ := Option.bind_eq_some_iff.mp parts
    cases found : tree.link? (start ++ [name]) with
    | some target =>
      refine ⟨outer ++ [name], [], location, (List.append_nil _).symm, leads,
        Or.inr ⟨outer, name, start, rfl, before, by rw [found]; rfl⟩, fun inner other inside => ?_⟩
      exact absurd (List.prefix_nil.mp inside) (nil_ne_snoc inner other).symm
    | none =>
      obtain ⟨front, rest, place, split, last⟩ := ih before
      have same : start = place ++ rest := by
        have whole := real?_of_lastLink last
        rw [← split] at whole
        exact Option.some.inj (before.symm.trans whole)
      refine ⟨front, rest ++ [name], place, by rw [split, List.append_assoc], last.leads, last.ends,
        fun inner other inside => ?_⟩
      rw [List.prefix_concat_iff] at inside
      cases inside with
      | inl whole =>
        rw [List.append_assoc, whole, ← List.append_assoc, ← same]
        exact found
      | inr within => exact last.plain inner other within

variable (tree)

variable [DecidableEq N]

/-- What is put in a directory is in a directory, and what was in one is still. -/
theorem put_rooted {front : List N} {name : N} (node : Node N B)
    (inside : tree.isDirectory front = true)
    (free : tree.isDirectory (front ++ [name]) = false) (outer : List N) (other : N)
    (there : (if outer ++ [other] = front ++ [name] then some node
      else tree.node? (outer ++ [other])).isSome = true) :
    isDirectoryNode (if outer = front ++ [name] then some node else tree.node? outer) = true := by
  by_cases here : outer ++ [other] = front ++ [name]
  · rw [List.append_inj_left' here rfl, if_neg (ne_snoc_self front name)]
    exact inside
  · rw [if_neg here] at there
    have directory := tree.rooted outer other there
    have apart : outer ≠ front ++ [name] := by
      intro same
      rw [same] at directory
      exact absurd directory (Bool.eq_false_iff.mp free)
    rw [if_neg apart]
    exact directory

/-- Puts something in a directory, in the place of what is no directory. -/
def put (front : List N) (name : N) (node : Node N B) (inside : tree.isDirectory front = true)
    (free : tree.isDirectory (front ++ [name]) = false) : FileTree N B where
  node? place := if place = front ++ [name] then some node else tree.node? place
  root := tree.put_root front name node
  rooted := tree.put_rooted node inside free
  nesting := tree.nesting

/-- `os.mkdir`, with the place of the new directory. The last name is not followed. -/
def mkdir (path : List N) : Except FileError (List N × FileTree N B) :=
  match path.getLast?, tree.locate? (path.dropLast.map .down) with
  | none, _ => .error .alreadyExists
  | some _, none => .error .notFound
  | some name, some front =>
    if inside : tree.isDirectory front = true then
      if free : (tree.node? (front ++ [name])).isNone = true then
        .ok (front ++ [name], tree.put front name .directory inside (tree.isDirectory_of_isNone free))
      else .error .alreadyExists
    else .error .notFound

/-- What the making of a directory and those it is in comes to. -/
structure Made (N B : Type) where
  /-- The tree it leaves. -/
  tree : FileTree N B
  /-- The places of the directories it made. -/
  places : List (List N)
  /-- Why it failed, when it did. -/
  error? : Option FileError

/-- `Path.mkdir(parents=True, exist_ok=True)` of a path given from its last name up. -/
def mkdirs (tree : FileTree N B) : List N → Made N B
  | [] => ⟨tree, [], none⟩
  | name :: outer =>
    match tree.mkdir (name :: outer).reverse with
    | .ok (place, grown) => ⟨grown, [place], none⟩
    | .error .notFound =>
      match tree.mkdirs outer with
      | ⟨between, places, some error⟩ => ⟨between, places, some error⟩
      | ⟨between, places, none⟩ =>
        match between.mkdir (name :: outer).reverse with
        | .ok (place, grown) => ⟨grown, places ++ [place], none⟩
        | .error .notFound => ⟨between, places, some .notFound⟩
        | .error error =>
          if between.leadsToDirectory ((name :: outer).reverse.map .down) then
            ⟨between, places, none⟩
          else ⟨between, places, some error⟩
    | .error error =>
      if tree.leadsToDirectory ((name :: outer).reverse.map .down) then ⟨tree, [], none⟩
      else ⟨tree, [], some error⟩

/-- `open(path, "wb")` and the writing of the content, with the place written. -/
def writeFile (path : List N) (content : B) : Except FileError (List N × FileTree N B) :=
  match tree.locate? (path.map .down) with
  | none => .error .notFound
  | some place =>
    match place.getLast? with
    | none => .error .isADirectory
    | some name =>
      if inside : tree.isDirectory place.dropLast = true then
        if free : tree.isDirectory (place.dropLast ++ [name]) = false then
          .ok (place.dropLast ++ [name], tree.put place.dropLast name (.file content) inside free)
        else .error .isADirectory
      else .error .notFound

omit [DecidableEq N] in
/-- A path without links leads to itself, if anywhere. -/
theorem eq_of_locate? {tree : FileTree N B} {path place : List N}
    (settled : Settled tree.link? path) (located : tree.locate? (path.map .down) = some place) :
    place = path := by
  have anywhere : tree.real? (path.map .down) = some place :=
    resolveLinks_mono (fun _ _ => rfl) located
  exact Option.some.inj (anywhere.symm.trans (real?_of_settled settled))

/-- How a tree relates to one that has more directories and other files and the same links. -/
structure Grows (before after : FileTree N B) : Prop where
  /-- As many links may be nested. -/
  nesting : after.nesting = before.nesting
  /-- The links are the same. -/
  links : after.link? = before.link?
  /-- Directories stay. -/
  directories : ∀ place, before.isDirectory place = true → after.isDirectory place = true

namespace Grows

omit [DecidableEq N]

variable {before between after : FileTree N B}

/-- A tree that is left alone grows. -/
theorem refl (tree : FileTree N B) : Grows tree tree := ⟨rfl, rfl, fun _ directory => directory⟩

/-- Growing twice is growing. -/
theorem trans (first : Grows before between) (second : Grows between after) :
    Grows before after :=
  ⟨second.nesting.trans first.nesting, second.links.trans first.links,
    fun place directory => second.directories place (first.directories place directory)⟩

/-- Paths lead to the same places. -/
theorem real? (grows : Grows before after) : after.real? = before.real? := by
  funext steps
  rw [FileTree.real?, FileTree.real?, grows.nesting, grows.links]

/-- Where the kernel is led, it still is. -/
theorem locate? (grows : Grows before after) {steps : List (PathStep N)} {place : List N}
    (located : before.locate? steps = some place) : after.locate? steps = some place := by
  rw [FileTree.locate?, grows.nesting, grows.links]
  exact resolveLinks_mono grows.directories located

end Grows

/-- A tree grows when something that is no link is put where there is no link. -/
theorem grows_put {tree : FileTree N B} {front : List N} {name : N} {node : Node N B}
    (inside : tree.isDirectory front = true) (free : tree.isDirectory (front ++ [name]) = false)
    (plain : tree.link? (front ++ [name]) = none) (noLink : ∀ target, node ≠ .link target) :
    Grows tree (tree.put front name node inside free) := by
  refine ⟨rfl, ?_, ?_⟩
  · funext place
    by_cases here : place = front ++ [name]
    · rw [here, plain]
      simp only [link?, put, if_true]
      cases node with
      | link target => exact absurd rfl (noLink target)
      | directory => rfl
      | file content => rfl
    · simp only [link?, put, here, if_false]
  · intro place directory
    have apart : place ≠ front ++ [name] := by
      intro same
      rw [same, free] at directory
      cases directory
    simpa only [isDirectory, put, if_neg apart] using directory

/-- A directory is made where nothing was. -/
theorem mkdir_ok {tree grown : FileTree N B} {path place : List N}
    (made : tree.mkdir path = .ok (place, grown)) :
    Grows tree grown ∧ tree.node? place = none ∧
      (∀ other, grown.node? other = if other = place then some .directory else tree.node? other) ∧
      ∃ front name, path.getLast? = some name ∧
        tree.locate? (path.dropLast.map .down) = some front ∧
        tree.isDirectory front = true ∧ place = front ++ [name] := by
  unfold mkdir at made
  split at made
  · cases made
  · cases made
  · next name front last located =>
    split at made
    · next inside =>
      split at made
      · next free =>
        obtain ⟨rfl, rfl⟩ := Prod.mk.inj (Except.ok.inj made)
        have nothing := Option.isNone_iff_eq_none.mp free
        have plain : tree.link? (front ++ [name]) = none := by rw [link?, nothing]
        refine ⟨grows_put _ _ plain (fun _ same => nomatch same), nothing, fun other => rfl, front,
          name, last, located, inside, rfl⟩
      · cases made
    · cases made

/-- The path of a directory that was made leads to it. -/
theorem leadsToDirectory_of_mkdir {tree grown : FileTree N B} {path place : List N}
    (made : tree.mkdir path = .ok (place, grown)) :
    grown.locate? (path.map .down) = some place ∧ grown.isDirectory place = true := by
  obtain ⟨grows, -, nodes, front, name, last, located, inside, rfl⟩ := mkdir_ok made
  have directory : grown.isDirectory (front ++ [name]) = true := by
    rw [isDirectory, nodes, if_pos rfl]
    rfl
  refine ⟨?_, directory⟩
  have plain : grown.link? (front ++ [name]) = none := by rw [link?, nodes, if_pos rfl]
  have start := grows.locate? located
  have whole : path = path.dropLast ++ [name] :=
    (List.dropLast_append_getLast? name last).symm
  rw [whole, List.map_append, FileTree.locate?, resolveLinks_append]
  rw [FileTree.locate?] at start
  rw [start, Option.bind_some]
  cases grown.nesting <;> simp [resolveLinks, walk, grows.directories front inside, plain]

/-- A directory is made at the end of a path without links. -/
theorem place_of_mkdir {tree grown : FileTree N B} {path place : List N}
    (settled : Settled tree.link? path) (made : tree.mkdir path = .ok (place, grown)) :
    place = path := by
  obtain ⟨grows, -, -, -⟩ := mkdir_ok made
  apply eq_of_locate? _ (leadsToDirectory_of_mkdir made).1
  rw [grows.links]
  exact settled

/-- What `Path.mkdir` does grows the tree, and makes a directory of its path unless it fails. -/
theorem mkdirs_grows (tree : FileTree N B) (names : List N) :
    Grows tree (tree.mkdirs names).tree ∧
      ((tree.mkdirs names).error? = none →
        (tree.mkdirs names).tree.leadsToDirectory (names.reverse.map .down) = true) := by
  induction names with
  | nil =>
    refine ⟨Grows.refl tree, fun _ => ?_⟩
    have located : tree.locate? [] = some [] := by
      unfold locate?
      cases tree.nesting <;> rfl
    simp only [mkdirs, List.reverse_nil, List.map_nil, leadsToDirectory, located]
    exact tree.root
  | cons name outer ih =>
    unfold mkdirs
    split
    · next place grown made =>
      obtain ⟨located, directory⟩ := leadsToDirectory_of_mkdir made
      refine ⟨(mkdir_ok made).1, fun _ => ?_⟩
      simp only [leadsToDirectory, located, directory]
    · split
      · next between places error outer_made =>
        rw [outer_made] at ih
        exact ⟨ih.1, fun none => nomatch none⟩
      · next between places outer_made =>
        rw [outer_made] at ih
        split
        · next place grown made =>
          obtain ⟨located, directory⟩ := leadsToDirectory_of_mkdir made
          refine ⟨ih.1.trans (mkdir_ok made).1, fun _ => ?_⟩
          simp only [leadsToDirectory, located, directory]
        · exact ⟨ih.1, fun none => nomatch none⟩
        · split
          · next there => exact ⟨ih.1, fun _ => there⟩
          · exact ⟨ih.1, fun none => nomatch none⟩
    · split
      · next there => exact ⟨Grows.refl tree, fun _ => there⟩
      · exact ⟨Grows.refl tree, fun none => nomatch none⟩

/-- Along a path without links, `Path.mkdir` makes what was no directory. -/
theorem places_of_mkdirs {tree : FileTree N B} {names : List N}
    (settled : Settled tree.link? names.reverse) :
    ∀ place ∈ (tree.mkdirs names).places,
      place <+: names.reverse ∧ tree.isDirectory place = false := by
  induction names with
  | nil => exact fun place member => nomatch member
  | cons name outer ih =>
    have below : outer.reverse <+: (name :: outer).reverse := by
      rw [List.reverse_cons]
      exact List.prefix_append _ _
    have outer_places : ∀ place ∈ (tree.mkdirs outer).places,
        place <+: (name :: outer).reverse ∧ tree.isDirectory place = false := fun place member =>
      ⟨(ih (settled.of_prefix below) place member).1.trans below,
        (ih (settled.of_prefix below) place member).2⟩
    have grows := (mkdirs_grows tree outer).1
    unfold mkdirs
    split
    · next place grown made =>
      intro other member
      obtain rfl := List.mem_singleton.mp member
      obtain rfl := place_of_mkdir settled made
      exact ⟨List.prefix_rfl, isDirectory_of_isNone tree (by rw [(mkdir_ok made).2.1]; rfl)⟩
    · split
      · next between places error outer_made =>
        rw [outer_made] at outer_places
        exact outer_places
      · next between places outer_made =>
        rw [outer_made] at outer_places grows
        split
        · next place grown made =>
          intro other member
          rw [List.mem_append, List.mem_singleton] at member
          cases member with
          | inl earlier => exact outer_places other earlier
          | inr last =>
            subst last
            have kept : Settled between.link? (name :: outer).reverse := by
              rw [grows.links]
              exact settled
            obtain rfl := place_of_mkdir kept made
            refine ⟨List.prefix_rfl, Bool.eq_false_iff.mpr fun directory => ?_⟩
            have still := grows.directories _ directory
            rw [isDirectory, (mkdir_ok made).2.1] at still
            cases still
        · exact outer_places
        · split <;> exact outer_places
    · split <;> exact fun place member => nomatch member

/-- The directories made on the way to a place below a directory are below it. -/
theorem below_of_mkdirs {tree : FileTree N B} {root out names : List N}
    (directory : tree.isDirectory root = true) (settled : Settled tree.link? out)
    (inside : root <+: out) (part : names.reverse <+: out) :
    ∀ place ∈ (tree.mkdirs names).places, root <+: place ∧ place <+: out := by
  intro place made
  obtain ⟨ahead, fresh⟩ := places_of_mkdirs (settled.of_prefix part) place made
  have ahead_out := ahead.trans part
  refine ⟨(List.prefix_or_prefix_of_prefix inside ahead_out).resolve_right fun above => ?_,
    ahead_out⟩
  have old := isDirectory_of_prefix above directory
  rw [fresh] at old
  cases old

omit [DecidableEq N] in
/-- A path of directories and no links leads to itself. -/
theorem locate?_of_isDirectory {tree : FileTree N B} {path : List N}
    (settled : Settled tree.link? path) (directory : tree.isDirectory path = true) :
    tree.locate? (path.map .down) = some path := by
  refine @resolveLinks_of_settled N _ tree.link? tree.nesting [] path settled fun inner name inside => ?_
  exact isDirectory_of_prefix ((List.prefix_append inner [name]).trans inside) directory

/-- No directory is made where something is. -/
theorem mkdir_taken {tree : FileTree N B} {front : List N} {name : N}
    (settled : Settled tree.link? front) (directory : tree.isDirectory front = true)
    (taken : (tree.node? (front ++ [name])).isNone = false) :
    tree.mkdir (front ++ [name]) = .error .alreadyExists := by
  unfold mkdir
  rw [List.getLast?_concat, List.dropLast_concat, locate?_of_isDirectory settled directory]
  dsimp only
  rw [dif_pos directory, dif_neg (by rw [taken]; exact Bool.false_ne_true)]

/-- A directory is made in a directory where nothing is. -/
theorem mkdir_free {tree : FileTree N B} {front : List N} {name : N}
    (settled : Settled tree.link? front) (directory : tree.isDirectory front = true)
    (free : tree.node? (front ++ [name]) = none) :
    ∃ grown, tree.mkdir (front ++ [name]) = .ok (front ++ [name], grown) := by
  unfold mkdir
  rw [List.getLast?_concat, List.dropLast_concat, locate?_of_isDirectory settled directory]
  dsimp only
  rw [dif_pos directory, dif_pos (by rw [free]; rfl)]
  exact ⟨_, rfl⟩

/-- Where there is a directory, `Path.mkdir` makes none. -/
theorem mkdirs_of_isDirectory {tree : FileTree N B} {names : List N}
    (settled : Settled tree.link? names.reverse)
    (directory : tree.isDirectory names.reverse = true) : tree.mkdirs names = ⟨tree, [], none⟩ := by
  cases names with
  | nil => rfl
  | cons name outer =>
    rw [List.reverse_cons] at settled directory
    have part : outer.reverse <+: outer.reverse ++ [name] := List.prefix_append _ _
    have outer_directory := isDirectory_of_prefix part directory
    have taken : (tree.node? (outer.reverse ++ [name])).isNone = false := by
      cases found : tree.node? (outer.reverse ++ [name]) with
      | some node => rfl
      | none =>
        rw [isDirectory, found] at directory
        cases directory
    have there : tree.mkdir (name :: outer).reverse = .error .alreadyExists := by
      rw [List.reverse_cons]
      exact mkdir_taken (settled.of_prefix part) outer_directory taken
    have leads : tree.leadsToDirectory ((name :: outer).reverse.map .down) = true := by
      rw [leadsToDirectory, List.reverse_cons, locate?_of_isDirectory settled directory]
      exact directory
    simp only [mkdirs, there, leads, if_true]

/-- In a directory where nothing is, `Path.mkdir` makes the one directory. -/
theorem mkdirs_of_free {tree : FileTree N B} {front : List N} {name : N}
    (settled : Settled tree.link? front) (directory : tree.isDirectory front = true)
    (free : tree.node? (front ++ [name]) = none) :
    (tree.mkdirs (front ++ [name]).reverse).error? = none ∧
      ∀ other, (tree.mkdirs (front ++ [name]).reverse).tree.node? other =
        if other = front ++ [name] then some .directory else tree.node? other := by
  obtain ⟨grown, made⟩ := mkdir_free settled directory free
  rw [List.reverse_append, List.reverse_singleton, List.singleton_append, mkdirs,
    List.reverse_cons, List.reverse_reverse, made]
  exact ⟨rfl, (mkdir_ok made).2.2.1⟩

/-- Where a file is, `Path.mkdir` fails. -/
theorem mkdirs_of_file {tree : FileTree N B} {front : List N} {name : N} {content : B}
    (settled : Settled tree.link? front) (directory : tree.isDirectory front = true)
    (file : tree.node? (front ++ [name]) = some (.file content)) :
    (tree.mkdirs (front ++ [name]).reverse).error? ≠ none := by
  have taken : (tree.node? (front ++ [name])).isNone = false := by
    rw [file]
    rfl
  have plain : tree.link? (front ++ [name]) = none := by rw [link?, file]
  have nowhere : tree.leadsToDirectory ((front ++ [name]).map .down) = false := by
    rw [leadsToDirectory]
    cases located : tree.locate? ((front ++ [name]).map .down) with
    | none => rfl
    | some place =>
      obtain rfl := eq_of_locate? (settled.snoc plain) located
      dsimp only
      rw [isDirectory, file]
      rfl
  rw [List.reverse_append, List.reverse_singleton, List.singleton_append, mkdirs,
    List.reverse_cons, List.reverse_reverse, mkdir_taken settled directory taken]
  dsimp only
  rw [nowhere, if_neg Bool.false_ne_true]
  exact Option.some_ne_none _

/-- A file is written in a directory where no directory is. -/
theorem writeFile_of_free {tree : FileTree N B} {front : List N} {name : N} (content : B)
    (settled : Settled tree.link? (front ++ [name])) (directory : tree.isDirectory front = true)
    (free : tree.isDirectory (front ++ [name]) = false) :
    ∃ grown, tree.writeFile (front ++ [name]) content = .ok (front ++ [name], grown) := by
  have located : tree.locate? ((front ++ [name]).map .down) = some (front ++ [name]) := by
    refine @resolveLinks_of_settled N _ tree.link? tree.nesting [] (front ++ [name]) settled
      fun inner other inside => ?_
    have shorter : inner <+: front := by
      rw [List.prefix_concat_iff] at inside
      cases inside with
      | inl whole =>
        rw [List.append_inj_left' whole rfl]
      | inr within => exact (List.prefix_append inner [other]).trans within
    exact isDirectory_of_prefix shorter directory
  unfold writeFile
  rw [located]
  dsimp only
  rw [List.getLast?_concat]
  dsimp only
  rw [dif_pos (by rwa [List.dropLast_concat]), dif_pos (by rwa [List.dropLast_concat])]
  simp only [List.dropLast_concat, Except.ok.injEq, Prod.mk.injEq, true_and, exists_eq']

/-- A file is written where there is no directory and no link. -/
theorem writeFile_ok {tree grown : FileTree N B} {path place : List N} {content : B}
    (written : tree.writeFile path content = .ok (place, grown)) :
    Grows tree grown ∧ tree.locate? (path.map .down) = some place ∧
      (∀ other, grown.node? other =
        if other = place then some (.file content) else tree.node? other) := by
  unfold writeFile at written
  split at written
  · cases written
  · next reached located =>
    split at written
    · cases written
    · next name last =>
      split at written
      · next inside =>
        split at written
        · next free =>
          obtain ⟨rfl, rfl⟩ := Prod.mk.inj (Except.ok.inj written)
          have whole : reached.dropLast ++ [name] = reached :=
            List.dropLast_append_getLast? name last
          have settled : Settled tree.link? reached := settled_resolveLinks settled_root located
          have plain := settled reached.dropLast name (by rw [whole])
          refine ⟨grows_put _ _ plain (fun _ same => nomatch same), ?_, fun other => rfl⟩
          rw [whole]
          exact located
        · cases written
      · cases written

end FileTree

end VelaFlow
