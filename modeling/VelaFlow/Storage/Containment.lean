import VelaFlow.Storage.PurePath

/-!
# What a storage key can reach

`LocalStorageBackend._resolve` of `storage/local.py` on a file system with links, and the places its
operations read, write, make and remove. A key is joined to the base directory, where an absolute
key wins, and followed. What it leads to is compared with the base as a text, which also begins the
texts of directories beside the base whose names go on from its name.
-/
namespace VelaFlow.Storage

variable {B : Type}

/-- `str(path)` of a resolved path. -/
def placeText (place : List FileName) : List Char := (NormalPath.mk false place).text

/-- Why `_resolve` raises. -/
inductive KeyError where
  /-- `ValueError`. -/
  | valueError (message : String)
  /-- Links lead to one another without end. -/
  | symlinkLoop
  deriving DecidableEq

/-- `self._base / Path(key.replace("\\", "/"))`. -/
def keyPath (base : List FileName) (key : String) : PurePath :=
  (NormalPath.mk false base).toPure.join (PurePath.parse (forwardSlashes key))

/-- `_resolve` of a backend with a base directory. -/
def resolveKey (tree : FileTree FileName B) (base : List FileName) (key : String) :
    Except KeyError (List FileName) :=
  if (PurePath.parse (forwardSlashes key)).climbs then
    .error (.valueError ("Path traversal detected: " ++ key))
  else
    match tree.real? (keyPath base key).steps with
    | none => .error .symlinkLoop
    | some place =>
      if (placeText base).isPrefixOf (placeText place) then .ok place
      else .error (.valueError ("Path escapes base directory: " ++ key))

/-- A name without its suffix: what is before its last dot, unless the name starts or ends there. -/
def stem (name : List Char) : List Char :=
  match name.reverse.takeWhile (· ≠ '.'), name.reverse.dropWhile (· ≠ '.') with
  | _ :: _, _ :: last :: before => (last :: before).reverse
  | _, _ => name

/-- Every character of a stem is in the name. -/
theorem mem_of_mem_stem {name : List Char} {character : Char} (member : character ∈ stem name) :
    character ∈ name := by
  unfold stem at member
  split at member
  · next rest dot last before _ shape =>
    rw [List.mem_reverse] at member
    have dropped : character ∈ name.reverse.dropWhile (· ≠ '.') := by
      rw [shape]
      exact List.mem_cons_of_mem dot member
    exact List.mem_reverse.mp ((List.dropWhile_sublist _).subset dropped)
  · exact member

/-- A stem with the new suffix can be the name of a file. -/
theorem isFileName_tmp (name : FileName) : IsFileName (stem name.val ++ ".tmp".toList) := by
  refine ⟨by simp, ?_, ?_, ?_⟩
  · intro same
    have lengths := congrArg List.length same
    simp at lengths
  · intro same
    have lengths := congrArg List.length same
    simp at lengths
  · rw [List.mem_append]
    intro slash
    cases slash with
    | inl inside => exact name.property.2.2.2 (mem_of_mem_stem inside)
    | inr suffix => exact absurd suffix (by decide)

/-- The name `path.with_suffix(".tmp")` gives. -/
def tmpName (name : FileName) : FileName := ⟨stem name.val ++ ".tmp".toList, isFileName_tmp name⟩

/-- `path.with_suffix(".tmp")`, which a path without a name does not have. -/
def withTmp (place : List FileName) : Option (List FileName) :=
  place.getLast?.map fun name => place.dropLast ++ [tmpName name]

/-- What is done with a key. -/
inductive KeyOperation where
  /-- `read_json` and `read_text`. -/
  | read
  /-- `exists`. -/
  | exists
  /-- `write_json` and `write_text`. -/
  | write
  /-- `list_keys`. -/
  | list
  /-- `delete`. -/
  | delete
  deriving DecidableEq

/-- The places a write opens and removes, or tries to, once there is the directory of its path. -/
def tmpTouches (tree : FileTree FileName B) (place : List FileName) : List (List FileName) :=
  match withTmp place with
  | none => []
  | some tmp =>
    match tree.real? (tmp.map .down) with
    | none => []
    | some reached => if tree.isDirectory reached then [reached, tmp] else [reached, tmp, place]

/-- The places an operation reads, lists, makes, opens and removes, or tries to, at a resolved
path. -/
def touched (tree : FileTree FileName B) (place : List FileName) : KeyOperation → List (List FileName)
  | .read | .exists | .delete => [place]
  | .list =>
    if (tree.node? place).isSome && !tree.isDirectory place then [place, place.dropLast] else [place]
  | .write =>
    let made := tree.mkdirs place.dropLast.reverse
    made.places ++ if made.error? = none then tmpTouches made.tree place else []

/-- A backend's base directory: it was followed when the backend was made, and is there. -/
structure BaseDirectory (tree : FileTree FileName B) where
  /-- `self._base`. -/
  place : List FileName
  /-- No part of it is a link. -/
  settled : Settled tree.link? place
  /-- It is a directory. -/
  directory : tree.isDirectory place = true

/-- `LocalStorageBackend.__init__`: the base directory, and the file system with it. -/
def openBackend (cwd : NormalPath) (tree : FileTree FileName B) (baseDir : List Char) :
    Option (List FileName × FileTree FileName B) :=
  (tree.real? ((PurePath.parse baseDir).fromRoot cwd)).bind fun place =>
    match tree.mkdirs place.reverse with
    | ⟨after, _, none⟩ => some (place, after)
    | ⟨_, _, some _⟩ => none

/-- A backend has a base directory. -/
theorem baseDirectory_of_openBackend {cwd : NormalPath} {tree after : FileTree FileName B}
    {baseDir : List Char} {place : List FileName}
    (opened : openBackend cwd tree baseDir = some (place, after)) :
    Settled after.link? place ∧ after.isDirectory place = true := by
  obtain ⟨reached, leads, made⟩ := Option.bind_eq_some_iff.mp opened
  obtain ⟨grows, there⟩ := FileTree.mkdirs_grows tree reached.reverse
  split at made
  · next grown _ same =>
    cases made
    rw [same] at grows there
    have settled : Settled after.link? place := by
      rw [grows.links]
      exact FileTree.settled_real? leads
    refine ⟨settled, ?_⟩
    have directory := there rfl
    rw [List.reverse_reverse, FileTree.leadsToDirectory] at directory
    split at directory
    · next located =>
      obtain rfl := FileTree.eq_of_locate? settled located
      exact directory
    · cases directory
  · cases made

/-- A place is in a directory beside the base, or that directory, whose name goes on from the base's
name. -/
def InNamesake (base place : List FileName) : Prop :=
  ∃ front name other rest, base = front ++ [name] ∧ place = front ++ other :: rest ∧
    other ≠ name ∧ name.val <+: other.val

/-- The names of a place, each after a slash. -/
def slashed (names : List FileName) : List Char := names.flatMap fun name => '/' :: name.val

/-- The text of a place that is not the root is its names after slashes. -/
theorem placeText_cons (name : FileName) (rest : List FileName) :
    placeText (name :: rest) = slashed (name :: rest) := by
  have anchored : (NormalPath.mk false (name :: rest)).toPure.anchor ≠ .relative :=
    fun same => nomatch same
  rw [placeText, NormalPath.text, PurePath.text, if_neg fun blank => anchored blank.1]
  show '/' :: ['/'].intercalate (((name :: rest).map PathStep.down).map stepText) = _
  induction rest generalizing name with
  | nil => simp [slashed, stepText, List.intercalate]
  | cons second others ih =>
    have later := ih second fun same => nomatch same
    simp only [List.map_cons, stepText, slashed, List.flatMap_cons] at later ⊢
    rw [← later]
    simp [List.intercalate, List.intersperse]

/-- What starts with a word and a slash, or ends with the word, starts another text only with the
same word, or ends in its word. -/
theorem word_prefix {first second rest others : List Char} (plain : '/' ∉ first)
    (plain' : '/' ∉ second) (ends : ∀ head ∈ rest.head?, head = '/')
    (ends' : ∀ head ∈ others.head?, head = '/') (inside : first ++ rest <+: second ++ others) :
    first = second ∨ rest = [] ∧ first <+: second := by
  have front : first <+: second ++ others := (List.prefix_append first rest).trans inside
  cases List.prefix_or_prefix_of_prefix front (List.prefix_append second others) with
  | inl shorter =>
    obtain ⟨more, rfl⟩ := shorter
    rw [List.append_assoc, List.prefix_append_right_inj] at inside
    cases more with
    | nil => exact Or.inl (List.append_nil first).symm
    | cons head tail =>
      right
      refine ⟨?_, List.prefix_append _ _⟩
      cases rest with
      | nil => rfl
      | cons slash after =>
        obtain rfl := ends slash rfl
        rw [List.cons_append, List.cons_prefix_cons] at inside
        exact absurd (inside.1 ▸ List.mem_append_right first List.mem_cons_self) plain'
  | inr longer =>
    obtain ⟨more, rfl⟩ := longer
    rw [List.append_assoc, List.prefix_append_right_inj] at inside
    cases more with
    | nil => exact Or.inl (List.append_nil second)
    | cons head tail =>
      obtain ⟨whole, rfl⟩ := inside
      have slash := ends' head rfl
      exact absurd (slash ▸ List.mem_append_right second List.mem_cons_self) plain

/-- Names after slashes start with a slash. -/
theorem slashed_head (names : List FileName) : ∀ head ∈ (slashed names).head?, head = '/' := by
  cases names with
  | nil => exact fun head member => nomatch member
  | cons name rest => exact fun head member => (Option.some.inj member).symm

/-- A place's names start those of a namesake or of what is below the place. -/
theorem slashed_prefix_iff {base place : List FileName} :
    slashed base <+: slashed place ↔ base <+: place ∨ InNamesake base place := by
  induction base generalizing place with
  | nil => exact ⟨fun _ => Or.inl List.nil_prefix, fun _ => List.nil_prefix⟩
  | cons name names ih =>
    cases place with
    | nil =>
      constructor
      · exact fun inside => absurd (List.prefix_nil.mp inside) (List.cons_ne_nil _ _)
      · rintro (inside | ⟨front, _, other, rest, -, shape, -⟩)
        · exact absurd (List.prefix_nil.mp inside) (List.cons_ne_nil _ _)
        · exact absurd shape (List.append_ne_nil_of_right_ne_nil front (List.cons_ne_nil _ _)).symm
    | cons other others =>
      have slash : slashed (name :: names) <+: slashed (other :: others) ↔
          name.val ++ slashed names <+: other.val ++ slashed others :=
        List.prefix_cons_inj '/'
      rw [slash]
      by_cases same : name = other
      · subst same
        rw [List.prefix_append_right_inj, ih, List.prefix_cons_inj]
        apply or_congr_right
        constructor
        · rintro ⟨front, last, next, rest, rfl, rfl, apart, longer⟩
          exact ⟨name :: front, last, next, rest, rfl, rfl, apart, longer⟩
        · rintro ⟨front, last, next, rest, whole, shape, apart, longer⟩
          cases front with
          | nil =>
            obtain ⟨rfl, -⟩ := List.cons.inj whole
            exact absurd (List.cons.inj shape).1.symm apart
          | cons head tail =>
            exact ⟨tail, last, next, rest, (List.cons.inj whole).2, (List.cons.inj shape).2, apart,
              longer⟩
      · constructor
        · intro inside
          right
          cases word_prefix name.property.2.2.2 other.property.2.2.2 (slashed_head names)
              (slashed_head others) inside with
          | inl equal => exact absurd (Subtype.ext equal) same
          | inr ended =>
            cases names with
            | nil => exact ⟨[], name, other, others, rfl, rfl, fun equal => same equal.symm, ended.2⟩
            | cons next _ => exact absurd ended.1 (List.cons_ne_nil _ _)
        · rintro (inside | ⟨front, last, next, rest, whole, shape, apart, longer⟩)
          · exact absurd (List.cons_prefix_cons.mp inside).1 same
          · cases front with
            | nil =>
              obtain ⟨rfl, rfl⟩ := List.cons.inj whole
              obtain ⟨rfl, rfl⟩ := List.cons.inj shape
              rw [slashed, List.flatMap_nil, List.append_nil]
              exact longer.trans (List.prefix_append _ _)
            | cons head tail =>
              exact absurd ((List.cons.inj whole).1.trans (List.cons.inj shape).1.symm) same

/-- The text of the base starts that of what is in it and that of what is in a namesake. -/
theorem placeText_prefix_iff {base place : List FileName} :
    placeText base <+: placeText place ↔ base <+: place ∨ InNamesake base place := by
  cases base with
  | nil =>
    obtain ⟨rest, slash⟩ := (NormalPath.mk false place).exists_text
    constructor
    · exact fun _ => Or.inl List.nil_prefix
    · intro _
      rw [placeText, placeText, slash]
      exact ⟨rest, rfl⟩
  | cons name names =>
    rw [← slashed_prefix_iff, placeText_cons]
    cases place with
    | nil =>
      have root : placeText [] = ['/'] := rfl
      constructor
      · intro inside
        have lengths := inside.length_le
        have filled := List.length_pos_of_ne_nil name.property.1
        rw [root, slashed, List.flatMap_cons, List.cons_append, List.length_cons,
          List.length_append, List.length_singleton] at lengths
        omega
      · exact fun inside => absurd (List.prefix_nil.mp inside) (List.cons_ne_nil _ _)
    | cons other others => rw [placeText_cons]

/-- Where a key leads that does not go up. -/
def KeyLeads (tree : FileTree FileName B) (base : List FileName) (key : String)
    (place : List FileName) : Prop :=
  (PurePath.parse (forwardSlashes key)).climbs = false ∧
    tree.real? (keyPath base key).steps = some place

/-- What a key resolves to is in the base, and so is all that an operation touches there. -/
def Confined (tree : FileTree FileName B) (base : List FileName) (key : String)
    (operation : KeyOperation) : Prop :=
  ∀ place, resolveKey tree base key = .ok place →
    base <+: place ∧ ∀ other ∈ touched tree place operation, base <+: other

/-- What `open` and `os.replace` are given beside a place is in the base, and so is where it leads. -/
def TmpConfined (tree : FileTree FileName B) (base place : List FileName) : Prop :=
  ∀ tmp reached, withTmp place = some tmp → tree.real? (tmp.map .down) = some reached →
    base <+: tmp ∧ base <+: reached

variable {tree : FileTree FileName B}

/-- A key resolves to where it leads, when this is in the base or a namesake of it. -/
theorem resolveKey_ok_iff {base place : List FileName} {key : String} :
    resolveKey tree base key = .ok place ↔
      KeyLeads tree base key place ∧ (base <+: place ∨ InNamesake base place) := by
  rw [← placeText_prefix_iff, ← List.isPrefixOf_iff_prefix]
  unfold resolveKey KeyLeads
  by_cases up : (PurePath.parse (forwardSlashes key)).climbs = true
  · rw [if_pos up]
    constructor
    · exact fun error => nomatch error
    · exact fun both => absurd up (Bool.eq_false_iff.mp both.1.1)
  · rw [if_neg up]
    cases leads : tree.real? (keyPath base key).steps with
    | none =>
      constructor
      · exact fun error => nomatch error
      · exact fun both => nomatch both.1.2
    | some reached =>
      dsimp only
      by_cases within : (placeText base).isPrefixOf (placeText reached) = true
      · rw [if_pos within]
        constructor
        · intro same
          obtain rfl := Except.ok.inj same
          exact ⟨⟨Bool.eq_false_iff.mpr up, rfl⟩, within⟩
        · rintro ⟨⟨-, same⟩, -⟩
          rw [Option.some.inj same]
      · rw [if_neg within]
        constructor
        · exact fun error => nomatch error
        · rintro ⟨⟨-, same⟩, inside⟩
          rw [← Option.some.inj same] at inside
          exact absurd inside within

/-- What is in the base is in no namesake of it. -/
theorem not_inNamesake {base place : List FileName} (inside : base <+: place) :
    ¬ InNamesake base place := by
  rintro ⟨front, name, other, rest, rfl, rfl, apart, -⟩
  rw [List.prefix_append_right_inj, List.cons_prefix_cons] at inside
  exact apart inside.1.symm

/-- The directory of a place in the base is in the base, unless the place is the base. -/
theorem prefix_dropLast {base place : List FileName} (inside : base <+: place)
    (apart : base ≠ place) : base <+: place.dropLast := by
  obtain ⟨rest, rfl⟩ := inside
  have filled : rest ≠ [] := by
    rintro rfl
    exact apart (List.append_nil base).symm
  rw [List.dropLast_append_of_ne_nil filled]
  exact List.prefix_append base _

/-- The temporary path is in the directory of its place. -/
theorem dropLast_prefix_tmp {place tmp : List FileName} (given : withTmp place = some tmp) :
    place.dropLast <+: tmp := by
  obtain ⟨name, -, rfl⟩ := Option.map_eq_some_iff.mp given
  exact List.prefix_append _ _

section Base

variable (base : BaseDirectory tree) {place : List FileName}

/-- Where no directory is, a temporary path leads to itself. -/
theorem tmp_leads_to_itself {tmp reached : List FileName} (settled : Settled tree.link? place)
    (given : withTmp place = some tmp) (missing : tree.isDirectory place.dropLast = false)
    (leads : tree.real? (tmp.map .down) = some reached) : reached = tmp := by
  obtain ⟨name, -, rfl⟩ := Option.map_eq_some_iff.mp given
  have plain : tree.link? (place.dropLast ++ [tmpName name]) = none := by
    cases found : tree.node? (place.dropLast ++ [tmpName name]) with
    | none => rw [FileTree.link?, found]
    | some node =>
      have directory := tree.rooted place.dropLast (tmpName name) (by rw [found]; rfl)
      rw [FileTree.isDirectory, directory] at missing
      cases missing
  have itself := FileTree.real?_of_settled
    ((settled.of_prefix (List.dropLast_prefix place)).snoc plain)
  exact Option.some.inj (leads.symm.trans itself)

/-- What an operation other than a write touches at a place in the base is in the base. -/
theorem touched_below (inside : base.place <+: place) {operation : KeyOperation}
    (other : operation ≠ .write) : ∀ touch ∈ touched tree place operation, base.place <+: touch := by
  have itself : ∀ touch ∈ [place], base.place <+: touch := by
    intro touch member
    rw [List.mem_singleton.mp member]
    exact inside
  cases operation
  case read => exact itself
  case «exists» => exact itself
  case delete => exact itself
  case write => exact absurd rfl other
  case list =>
    dsimp only [touched]
    split
    · next file =>
      have apart : base.place ≠ place := by
        intro same
        rw [← same, base.directory] at file
        simp at file
      intro touch member
      rw [List.mem_cons, List.mem_singleton] at member
      cases member with
      | inl here =>
        rw [here]
        exact inside
      | inr above =>
        rw [above]
        exact prefix_dropLast inside apart
    · exact itself

/-- What a write opens and removes is in the base exactly when the temporary path is, and where it
leads. -/
theorem tmpTouches_iff {root : List FileName} (inside : root <+: place) :
    (∀ touch ∈ tmpTouches tree place, root <+: touch) ↔ TmpConfined tree root place := by
  unfold TmpConfined tmpTouches
  cases withTmp place with
  | none =>
    constructor
    · exact fun _ tmp reached same => nomatch same
    · exact fun _ touch member => nomatch member
  | some tmp =>
    dsimp only
    cases leads : tree.real? (tmp.map .down) with
    | none =>
      constructor
      · intro _ other reached same found
        rw [← Option.some.inj same, leads] at found
        cases found
      · exact fun _ touch member => nomatch member
    | some reached =>
      dsimp only
      constructor
      · intro all other found same leads_other
        obtain rfl := Option.some.inj same
        obtain rfl := Option.some.inj (leads.symm.trans leads_other)
        split at all
        · exact ⟨all tmp (by simp), all reached (by simp)⟩
        · exact ⟨all tmp (by simp), all reached (by simp)⟩
      · intro confined touch member
        obtain ⟨tmp_below, reached_below⟩ := confined tmp reached rfl leads
        have known : touch = reached ∨ touch = tmp ∨ touch = place := by
          split at member
          · rw [List.mem_cons, List.mem_singleton] at member
            exact member.imp_right Or.inl
          · rwa [List.mem_cons, List.mem_cons, List.mem_singleton] at member
        obtain rfl | rfl | rfl := known
        · exact reached_below
        · exact tmp_below
        · exact inside

/-- Where the directory of a path cannot be made, its temporary path is in the base and leads
there. -/
theorem tmpConfined_of_error {error : FileError} (settled : Settled tree.link? place)
    (inside : base.place <+: place)
    (failed : (tree.mkdirs place.dropLast.reverse).error? = some error) :
    TmpConfined tree base.place place := by
  intro tmp reached given leads
  have missing : tree.isDirectory place.dropLast = false := by
    rw [← Bool.not_eq_true]
    intro directory
    have along := settled.of_prefix (List.dropLast_prefix place)
    rw [← List.reverse_reverse place.dropLast] at along directory
    rw [FileTree.mkdirs_of_isDirectory along directory] at failed
    cases failed
  have apart : base.place ≠ place := by
    intro same
    have directory := FileTree.isDirectory_of_prefix (List.dropLast_prefix place)
      (same ▸ base.directory)
    rw [missing] at directory
    cases directory
  have below := (prefix_dropLast inside apart).trans (dropLast_prefix_tmp given)
  rw [tmp_leads_to_itself settled given missing leads]
  exact ⟨below, below⟩

/-- What a write touches at a place in the base is in the base exactly when the temporary path is,
and where it leads. -/
theorem touched_write_iff (settled : Settled tree.link? place) (inside : base.place <+: place) :
    (∀ touch ∈ touched tree place .write, base.place <+: touch) ↔
      TmpConfined tree base.place place := by
  have part : place.dropLast.reverse.reverse <+: place := by
    rw [List.reverse_reverse]
    exact List.dropLast_prefix place
  have made_below : ∀ touch ∈ (tree.mkdirs place.dropLast.reverse).places,
      base.place <+: touch := fun touch member =>
    (FileTree.below_of_mkdirs base.directory settled inside part touch member).1
  have grows := (FileTree.mkdirs_grows tree place.dropLast.reverse).1
  have same : TmpConfined (tree.mkdirs place.dropLast.reverse).tree base.place place ↔
      TmpConfined tree base.place place := by
    rw [TmpConfined, TmpConfined, grows.real?]
  unfold touched
  dsimp only
  cases failed : (tree.mkdirs place.dropLast.reverse).error? with
  | some error =>
    rw [if_neg (Option.some_ne_none error), List.append_nil]
    exact ⟨fun _ => tmpConfined_of_error base settled inside failed, fun _ => made_below⟩
  | none =>
    rw [if_pos rfl, ← same, ← tmpTouches_iff inside]
    constructor
    · exact fun all touch member => all touch (List.mem_append_right _ member)
    · intro below touch member
      rw [List.mem_append] at member
      cases member with
      | inl made => exact made_below touch made
      | inr opened => exact below touch opened

/-- A key stays in the base exactly when it leads to no namesake of the base and, for a write that it
leads to the base with, the temporary path is in the base and leads there. -/
theorem confined_iff (key : String) (operation : KeyOperation) :
    Confined tree base.place key operation ↔
      ∀ place, KeyLeads tree base.place key place →
        ¬ InNamesake base.place place ∧
          (operation = .write → base.place <+: place → TmpConfined tree base.place place) := by
  constructor
  · intro confined place leads
    refine ⟨fun namesake => ?_, fun write inside => ?_⟩
    · have returned := resolveKey_ok_iff.mpr ⟨leads, Or.inr namesake⟩
      exact not_inNamesake (confined place returned).1 namesake
    · have returned := resolveKey_ok_iff.mpr ⟨leads, Or.inl inside⟩
      rw [← touched_write_iff base (FileTree.settled_real? leads.2) inside, ← write]
      exact (confined place returned).2
  · intro stays place returned
    obtain ⟨leads, within⟩ := resolveKey_ok_iff.mp returned
    obtain ⟨apart, write_stays⟩ := stays place leads
    have inside := within.resolve_right apart
    refine ⟨inside, ?_⟩
    by_cases write : operation = .write
    · rw [write, touched_write_iff base (FileTree.settled_real? leads.2) inside]
      exact write_stays write inside
    · exact touched_below base inside write

end Base

section Samples

/-- The name `store`. -/
def storeName : FileName := ⟨"store".toList, by decide⟩

/-- The name `store-old`. -/
def storeOldName : FileName := ⟨"store-old".toList, by decide⟩

/-- The directories `/store` and `/store-old`. -/
def siblings : FileTree FileName String :=
  ((FileTree.bare 40).put [] storeName .directory rfl rfl).put [] storeOldName .directory rfl rfl

/-- A backend on `/store` resolves the key `/store-old` to a directory beside its base. -/
theorem namesake_not_confined : ¬ Confined siblings [storeName] "/store-old" .read := by
  intro confined
  have inside := (confined [storeOldName] rfl).1
  exact absurd inside (by decide)

end Samples

end VelaFlow.Storage
