import Mathlib.Data.Fintype.Basic
import Mathlib.Data.List.Nodup
import VelaFlow.Foundation.Machine
import VelaFlow.Foundation.Program

/-!
# Programs that share a cell

Programs run side by side, one action at a time, over one state, and share a cell of it. A program
that writes the cell after another has written what it read takes back what the other wrote; one
that reads it between two writes of another reads what was never meant to stay. In a run without
either, the cell ends as some order of the programs, one after the other, leaves it.
-/
namespace VelaFlow.Program

variable {ι Op ε C σ : Type} {Answer : Op → Type}

/-- What an action has to do with the cell. -/
inductive Touch where
  /-- Nothing, and its answer is the program's own. -/
  | inner
  /-- It reads the cell. -/
  | read
  /-- It writes the cell. -/
  | write
  /-- Nothing, and its answer may depend on what others do. -/
  | outer
  deriving DecidableEq

/-- A cell of a state that programs share. -/
structure SharedCell (ι Op : Type) (Answer : Op → Type) (ε C σ : Type) where
  /-- What an action has to do with the cell. -/
  touch : Op → Touch
  /-- The actions that programs perform. -/
  allowed : Op → Prop
  /-- The answers that are possible. -/
  possible : (op : Op) → Except ε (Answer op) → Prop
  /-- What the cell may hold. -/
  sound : C → Prop
  /-- The cell of a state. -/
  view : σ → C
  /-- What an action answers to a program that has the cell to itself, and the cell it leaves. -/
  alone : ι → (op : Op) → C → Except ε (Answer op) × C
  /-- What an action answers to a program, and the state it leaves. -/
  respond : ι → (op : Op) → σ → Except ε (Answer op) × σ

namespace SharedCell

/-- What is relied on of a cell. -/
structure Lawful (cell : SharedCell ι Op Answer ε C σ) : Prop where
  /-- An inner action does not depend on the cell. -/
  inner : ∀ i op c d, cell.touch op = .inner → cell.alone i op c = ((cell.alone i op d).1, c)
  /-- Reading leaves the cell, and so does an outer action. -/
  still : ∀ i op c, cell.touch op = .read ∨ cell.touch op = .outer → (cell.alone i op c).2 = c
  /-- What is not outer goes by the cell. -/
  sees : ∀ i op state, cell.allowed op → cell.touch op ≠ .outer →
    (cell.respond i op state).1 = (cell.alone i op (cell.view state)).1 ∧
      cell.view (cell.respond i op state).2 = (cell.alone i op (cell.view state)).2
  /-- An outer action leaves the cell of the state. -/
  apart : ∀ i op state, cell.allowed op → cell.touch op = .outer →
    cell.view (cell.respond i op state).2 = cell.view state
  /-- Answers are possible. -/
  real : ∀ i op state, cell.allowed op → cell.sound (cell.view state) →
    cell.possible op (cell.respond i op state).1
  /-- Answers to a program alone are possible. -/
  realAlone : ∀ i op c, cell.allowed op → cell.sound c → cell.possible op (cell.alone i op c).1
  /-- The cell stays sound. -/
  keeps : ∀ i op c, cell.allowed op → cell.sound c → cell.sound (cell.alone i op c).2

variable (cell : SharedCell ι Op Answer ε C σ)

/-- A program touches the cell only before its first outer action. -/
def discipline : Discipline Op Answer ε Bool where
  allowed left op := cell.allowed op ∧ (cell.touch op = .outer ∨ left = false)
  possible _ op answer := cell.possible op answer
  advance left op _ := left || decide (cell.touch op = .outer)

/-- What is left of a program that touches the cell only before its first outer action. -/
def Transaction (left : Bool) (program : Program Op Answer ε Unit) : Prop :=
  Safe cell.discipline (fun _ _ => True) program left

/-- A program writes the cell no more. -/
def Settled (program : Program Op Answer ε Unit) : Prop :=
  Only (fun op => cell.touch op ≠ .write) program

/-- What a program alone makes of the cell. -/
def result (i : ι) (program : Program Op Answer ε Unit) (c : C) : C :=
  (run (cell.alone i) program c).2

/-- How a program stands to the cell. -/
inductive Standing where
  /-- It has not touched the cell. -/
  | away
  /-- It has read the cell, and none has written it since. -/
  | reading
  /-- It has written the cell, and no other has since. -/
  | writing
  /-- Another has written the cell since it touched it. -/
  | overtaken
  deriving DecidableEq

/-- Programs that run side by side. -/
structure Pool (ι Op : Type) (Answer : Op → Type) (ε σ : Type) where
  /-- What is left of each program. -/
  programs : ι → Program Op Answer ε Unit
  /-- The state. -/
  state : σ
  /-- How each program stands to the cell. -/
  standing : ι → Standing

section Steps

variable [DecidableEq ι]

/-- How programs stand to the cell after an action of one of them. -/
def stand (standing : ι → Standing) (i : ι) : Touch → ι → Standing
  | .read => Function.update standing i (if standing i = .writing then .writing else .reading)
  | .write => fun j =>
    if j = i then .writing else if standing j = .away then .away else .overtaken
  | .inner | .outer => standing

/-- The next action of one program. -/
def step (pool : Pool ι Op Answer ε σ) (i : ι) : Option (Pool ι Op Answer ε σ) :=
  match pool.programs i with
  | perform op next =>
    some
      { programs := Function.update pool.programs i (next (cell.respond i op pool.state).1)
        state := (cell.respond i op pool.state).2
        standing := stand pool.standing i (cell.touch op) }
  | done _ | raise _ => none

/-- Where the next action of a program touches the cell, none has overtaken it, and what it reads is
not half written. -/
def InTurn (pool : Pool ι Op Answer ε σ) (i : ι) : Prop :=
  ∀ op next, pool.programs i = perform op next →
    (cell.touch op = .read ∨ cell.touch op = .write → pool.standing i ≠ .overtaken) ∧
      (cell.touch op = .read → ∀ j, j ≠ i → pool.standing j = .writing →
        cell.Settled (pool.programs j))

end Steps

variable {cell}

section Alone

/-- After its first outer action a transaction leaves the cell. -/
theorem result_of_left (lawful : cell.Lawful) (i : ι) {program : Program Op Answer ε Unit}
    (transaction : cell.Transaction true program) {c : C} (sound : cell.sound c) :
    cell.result i program c = c := by
  induction program with
  | done value => rfl
  | raise exception => rfl
  | perform op next ih =>
    obtain ⟨⟨allowed, when⟩, rest⟩ := transaction
    have outer : cell.touch op = .outer := when.resolve_right (by decide)
    have stays := lawful.still i op c (.inr outer)
    have possible := lawful.realAlone i op c allowed sound
    have later := ih _ (rest _ possible)
    show cell.result i (next (cell.alone i op c).1) (cell.alone i op c).2 = c
    rw [stays]
    exact later

/-- An inner action and an outer one do not matter for what a program makes of the cell. -/
theorem result_of_unseen (lawful : cell.Lawful) {i : ι} {left : Bool} {op : Op}
    {next : Except ε (Answer op) → Program Op Answer ε Unit}
    (transaction : cell.Transaction left (perform op next))
    (unseen : cell.touch op = .inner ∨ cell.touch op = .outer) {state : σ}
    (sound : cell.sound (cell.view state)) {c : C} (soundHere : cell.sound c) :
    cell.result i (next (cell.respond i op state).1) c = cell.result i (perform op next) c := by
  have allowed := transaction.1.1
  cases unseen with
  | inl inner =>
    have seen := (lawful.sees i op state allowed (by rw [inner]; decide)).1
    have same := lawful.inner i op c (cell.view state) inner
    show _ = cell.result i (next (cell.alone i op c).1) (cell.alone i op c).2
    rw [same, seen]
  | inr outer =>
    have stays := lawful.still i op c (.inr outer)
    have gone : ∀ answer, cell.possible op answer → cell.Transaction true (next answer) := by
      intro answer possible
      have rest := transaction.2 answer possible
      have advanced : cell.discipline.advance left op answer = true := by
        show (left || decide (cell.touch op = .outer)) = true
        rw [decide_eq_true outer, Bool.or_true]
      rwa [advanced] at rest
    have here := result_of_left lawful i (gone _ (lawful.real i op state allowed sound)) soundHere
    have there := result_of_left lawful i (gone _ (lawful.realAlone i op c allowed soundHere))
      soundHere
    show _ = cell.result i (next (cell.alone i op c).1) (cell.alone i op c).2
    rw [stays, here, there]

/-- What a program makes of the cell it finds, it still makes after its next action. -/
theorem result_of_seen (lawful : cell.Lawful) (i : ι) {op : Op}
    (next : Except ε (Answer op) → Program Op Answer ε Unit) (allowed : cell.allowed op)
    (seen : cell.touch op ≠ .outer) (state : σ) :
    cell.result i (next (cell.respond i op state).1) (cell.view (cell.respond i op state).2) =
      cell.result i (perform op next) (cell.view state) := by
  obtain ⟨answer, left⟩ := lawful.sees i op state allowed seen
  rw [answer, left]
  rfl

/-- The cell after an action is sound. -/
theorem sound_respond (lawful : cell.Lawful) (i : ι) {op : Op} (allowed : cell.allowed op)
    {state : σ} (sound : cell.sound (cell.view state)) :
    cell.sound (cell.view (cell.respond i op state).2) := by
  by_cases outer : cell.touch op = .outer
  · rw [lawful.apart i op state allowed outer]
    exact sound
  · rw [(lawful.sees i op state allowed outer).2]
    exact lawful.keeps i op _ allowed sound

end Alone

section Early

variable {α β : Type}

/-- A program performs no outer action, and what it returns meets a condition. -/
def Early (cell : SharedCell ι Op Answer ε C σ) (post : α → Prop)
    (program : Program Op Answer ε α) : Prop :=
  Safe cell.discipline (fun left outcome => left = false ∧ ∀ value, outcome = .ok value →
    post value) program false

/-- A sequence performs no outer action when its parts do not. -/
theorem Early.bind (middle : α → Prop) {post : β → Prop} {program : Program Op Answer ε α}
    {rest : α → Program Op Answer ε β} (first : Early cell middle program)
    (later : ∀ value, middle value → Early cell post (rest value)) :
    Early cell post (program >>= rest) := by
  apply Safe.seq _ first
  · rintro left value ⟨rfl, meets⟩
    exact later value (meets value rfl)
  · rintro left exception ⟨stays, -⟩
    exact ⟨stays, fun _ is => nomatch is⟩

/-- A program that has returned performs no outer action. -/
theorem Early.pure {post : α → Prop} {value : α} (meets : post value) :
    Early cell post (pure value) :=
  ⟨rfl, fun _ same => Except.ok.inj same ▸ meets⟩

/-- A program that has raised performs no outer action. -/
theorem Early.raise {post : α → Prop} (exception : ε) :
    Early cell post (Program.raise exception) := ⟨rfl, fun _ is => nomatch is⟩

/-- A computation performs no outer action. -/
theorem Early.lift {post : α → Prop} {computation : Except ε α}
    (meets : ∀ value, computation = .ok value → post value) :
    Early cell post (Program.lift computation) := Safe.lift ⟨rfl, meets⟩

/-- One action that is not outer. -/
theorem Early.act {op : Op} (touch : Touch) (touched : cell.touch op = touch)
    (inside : touch ≠ .outer) (allowed : cell.allowed op) {post : Answer op → Prop}
    (meets : ∀ value, cell.possible op (.ok value) → post value) :
    Early cell post (Program.act op) := by
  have seen : cell.touch op ≠ .outer := fun outer => inside (touched.symm.trans outer)
  refine Safe.act ⟨allowed, .inr rfl⟩ fun answer real => ?_
  refine ⟨?_, ?_⟩
  · show (false || decide (cell.touch op = .outer)) = false
    rw [decide_eq_false seen, Bool.or_false]
  · rintro value rfl
    exact meets value real

/-- What follows a program without outer actions may perform some. -/
theorem Early.safe {middle : α → Prop} {program : Program Op Answer ε α}
    (early : Early cell middle program) {rest : α → Program Op Answer ε β}
    (later : ∀ value, middle value →
      Safe cell.discipline (fun _ _ => True) (rest value) false) :
    Safe cell.discipline (fun _ _ => True) (program >>= rest) false := by
  apply Safe.seq _ early
  · rintro left value ⟨rfl, meets⟩
    exact later value (meets value rfl)
  · exact fun _ _ _ => trivial

/-- A program whose value is not used is a transaction when it touches the cell as one. -/
theorem transaction_of_safe {program : Program Op Answer ε α}
    (safe : Safe cell.discipline (fun _ _ => True) program false) :
    cell.Transaction false (program >>= fun _ => Pure.pure ()) :=
  Safe.seq _ safe (fun _ _ _ => trivial) fun _ _ _ => trivial

/-- A program without outer actions whose value is not used is a transaction. -/
theorem Early.transaction {post : α → Prop} {program : Program Op Answer ε α}
    (early : Early cell post program) :
    cell.Transaction false (program >>= fun _ => Pure.pure ()) :=
  transaction_of_safe (early.weaken fun _ _ _ => trivial)

end Early

section Chains

/-- Programs take the cell from one value to another, each from what it found to what it left. -/
def Chain (before after : ι → C) : C → List ι → C → Prop
  | first, [], last => first = last
  | first, i :: rest, last => before i = first ∧ Chain before after (after i) rest last

variable {before after : ι → C}

/-- A chain of two parts meets in between. -/
theorem chain_append_iff {first last : C} {one two : List ι} :
    Chain before after first (one ++ two) last ↔
      ∃ middle, Chain before after first one middle ∧ Chain before after middle two last := by
  induction one generalizing first with
  | nil => simp [Chain]
  | cons i rest ih =>
    simp only [List.cons_append, Chain, ih]
    constructor
    · rintro ⟨found, middle, left, right⟩
      exact ⟨middle, ⟨found, left⟩, right⟩
    · rintro ⟨middle, ⟨found, left⟩, right⟩
      exact ⟨found, middle, left, right⟩

/-- A chain goes by what its programs found and left. -/
theorem Chain.congr {otherBefore otherAfter : ι → C} {first last : C} {order : List ι}
    (chain : Chain before after first order last)
    (same : ∀ i ∈ order, otherBefore i = before i ∧ otherAfter i = after i) :
    Chain otherBefore otherAfter first order last := by
  induction order generalizing first with
  | nil => exact chain
  | cons i rest ih =>
    obtain ⟨found, left⟩ := same i List.mem_cons_self
    refine ⟨found.trans chain.1, ?_⟩
    rw [left]
    exact ih chain.2 fun j inside => same j (List.mem_cons_of_mem i inside)

/-- A chain does without a program that left what it found. -/
theorem Chain.erase [DecidableEq ι] {first last : C} {order : List ι} {i : ι}
    (chain : Chain before after first order last) (idle : before i = after i) :
    Chain before after first (order.erase i) last := by
  induction order generalizing first with
  | nil => exact chain
  | cons j rest ih =>
    by_cases same : j = i
    · subst same
      rw [List.erase_cons_head]
      obtain ⟨found, later⟩ := chain
      rwa [← idle, found] at later
    · rw [List.erase_cons_tail (by simpa using same)]
      exact ⟨chain.1, ih chain.2⟩

/-- What a chain ends in, its last program left. -/
theorem Chain.last {first last : C} {order : List ι} {i : ι}
    (chain : Chain before after first (order ++ [i]) last) :
    Chain before after first order (before i) ∧ after i = last := by
  obtain ⟨middle, left, found, ends⟩ := chain_append_iff.mp chain
  rw [found]
  exact ⟨left, ends⟩

end Chains

section Serialization

/-- The order in which programs that run side by side have taken the cell. -/
structure Serialization (cell : SharedCell ι Op Answer ε C σ)
    (start : ι → Program Op Answer ε Unit) (first : C) (pool : Pool ι Op Answer ε σ) where
  /-- The programs that have touched the cell, in their order. -/
  order : List ι
  /-- What each has found. -/
  before : ι → C
  /-- What each has left so far. -/
  after : ι → C
  /-- Whether each has performed an outer action. -/
  left : ι → Bool
  /-- None occurs twice. -/
  nodup : order.Nodup
  /-- They are those that have touched the cell. -/
  mem_order : ∀ i, i ∈ order ↔ pool.standing i ≠ .away
  /-- They take the cell from its first value to the present one. -/
  chain : Chain before after first order (cell.view pool.state)
  /-- What is left of each is a transaction. -/
  transaction : ∀ i, cell.Transaction (left i) (pool.programs i)
  /-- A program that has touched the cell makes of what it left what it makes of what it found. -/
  touched : ∀ i ∈ order, cell.sound (after i) ∧
    cell.result i (pool.programs i) (after i) = cell.result i (start i) (before i)
  /-- A program that has not makes of the cell what it makes of it from the start. -/
  untouched : ∀ i ∉ order, ∀ c, cell.sound c →
    cell.result i (pool.programs i) c = cell.result i (start i) c
  /-- What was read and not written since is the cell. -/
  reading : ∀ i, pool.standing i = .reading → before i = after i ∧ after i = cell.view pool.state
  /-- What was written last is the cell, and its program is the last unless it writes no more. -/
  writing : ∀ i, pool.standing i = .writing → after i = cell.view pool.state ∧
    (cell.Settled (pool.programs i) ∨ order.getLast? = some i)
  /-- The cell is sound. -/
  sound : cell.sound (cell.view pool.state)

variable [DecidableEq ι] {start : ι → Program Op Answer ε Unit} {first : C}
  {pool next : Pool ι Op Answer ε σ} {i : ι} {op : Op}
  {rest : Except ε (Answer op) → Program Op Answer ε Unit}

namespace Serialization

/-- What is left of a transaction after its action. -/
theorem transaction_update (serial : Serialization cell start first pool) (lawful : cell.Lawful)
    (performs : pool.programs i = perform op rest) (j : ι) :
    cell.Transaction
      (Function.update serial.left i (serial.left i || decide (cell.touch op = .outer)) j)
      (Function.update pool.programs i (rest (cell.respond i op pool.state).1) j) := by
  by_cases same : j = i
  · subst same
    rw [Function.update_self, Function.update_self]
    have transaction := serial.transaction j
    rw [performs] at transaction
    exact transaction.2 _ (lawful.real j op _ transaction.1.1 serial.sound)
  · rw [Function.update_of_ne same, Function.update_of_ne same]
    exact serial.transaction j

/-- A program that writes the cell no more still does not after its next action. -/
theorem settled_update (performs : pool.programs i = perform op rest)
    {answer : Except ε (Answer op)} {j : ι} (settled : cell.Settled (pool.programs j)) :
    cell.Settled (Function.update pool.programs i (rest answer) j) := by
  by_cases same : j = i
  · subst same
    rw [Function.update_self]
    rw [performs] at settled
    exact settled.2 answer trivial
  · rwa [Function.update_of_ne same]

/-- An action that has nothing to do with the cell changes nothing in the order. -/
theorem step_unseen (serial : Serialization cell start first pool) (lawful : cell.Lawful)
    (performs : pool.programs i = perform op rest)
    (unseen : cell.touch op = .inner ∨ cell.touch op = .outer) :
    Nonempty (Serialization cell start first
      ⟨Function.update pool.programs i (rest (cell.respond i op pool.state).1),
        (cell.respond i op pool.state).2, stand pool.standing i (cell.touch op)⟩) := by
  have transaction := serial.transaction i
  rw [performs] at transaction
  have allowed := transaction.1.1
  have same : cell.view (cell.respond i op pool.state).2 = cell.view pool.state := by
    cases unseen with
    | inl inner =>
      rw [(lawful.sees i op pool.state allowed (by rw [inner]; decide)).2,
        lawful.inner i op _ (cell.view pool.state) inner]
    | inr outer => exact lawful.apart i op pool.state allowed outer
  have standing : stand pool.standing i (cell.touch op) = pool.standing := by
    cases unseen with
    | inl inner => rw [inner]; rfl
    | inr outer => rw [outer]; rfl
  have result : ∀ j c, cell.sound c → cell.result j
      (Function.update pool.programs i (rest (cell.respond i op pool.state).1) j) c =
        cell.result j (pool.programs j) c := by
    intro j c sound
    by_cases is : j = i
    · subst is
      rw [Function.update_self, performs]
      exact result_of_unseen lawful transaction unseen serial.sound sound
    · rw [Function.update_of_ne is]
  refine ⟨{
    order := serial.order
    before := serial.before
    after := serial.after
    left := _
    nodup := serial.nodup
    mem_order := ?_
    chain := ?_
    transaction := serial.transaction_update lawful performs
    touched := ?_
    untouched := ?_
    reading := ?_
    writing := ?_
    sound := ?_ }⟩
  · rw [standing]
    exact serial.mem_order
  · rw [same]
    exact serial.chain
  · intro j inside
    obtain ⟨sound, makes⟩ := serial.touched j inside
    exact ⟨sound, (result j _ sound).trans makes⟩
  · intro j outside c sound
    exact (result j c sound).trans (serial.untouched j outside c sound)
  · rw [standing, same]
    exact serial.reading
  · rw [standing, same]
    intro j writes
    obtain ⟨is, last⟩ := serial.writing j writes
    exact ⟨is, last.imp_left (settled_update performs)⟩
  · rw [same]
    exact serial.sound

/-- An action that takes the cell as the last of all, from a value that the others lead to. -/
theorem step_last (serial : Serialization cell start first pool) (lawful : cell.Lawful)
    (performs : pool.programs i = perform op rest) {found : C} {standing : ι → Standing}
    (chain : Chain serial.before serial.after first (serial.order.erase i) found)
    (makes : cell.result i (rest (cell.respond i op pool.state).1)
      (cell.view (cell.respond i op pool.state).2) = cell.result i (start i) found)
    (own : standing i = .reading ∧ found = cell.view (cell.respond i op pool.state).2 ∨
      standing i = .writing)
    (others : ∀ j, j ≠ i → (standing j = .away ↔ pool.standing j = .away) ∧
      (standing j = .reading ∨ standing j = .writing → standing j = pool.standing j ∧
        cell.view (cell.respond i op pool.state).2 = cell.view pool.state ∧
          (standing j = .writing → cell.Settled (pool.programs j)))) :
    Nonempty (Serialization cell start first
      ⟨Function.update pool.programs i (rest (cell.respond i op pool.state).1),
        (cell.respond i op pool.state).2, standing⟩) := by
  have transaction := serial.transaction i
  rw [performs] at transaction
  have sound := sound_respond lawful i transaction.1.1 serial.sound
  have mem_erase : ∀ j, j ∈ serial.order.erase i ↔ j ≠ i ∧ j ∈ serial.order :=
    fun j => serial.nodup.mem_erase_iff
  refine ⟨{
    order := serial.order.erase i ++ [i]
    before := Function.update serial.before i found
    after := Function.update serial.after i (cell.view (cell.respond i op pool.state).2)
    left := _
    nodup := ?_
    mem_order := ?_
    chain := ?_
    transaction := serial.transaction_update lawful performs
    touched := ?_
    untouched := ?_
    reading := ?_
    writing := ?_
    sound := sound }⟩
  · apply List.Nodup.append (serial.nodup.erase i) (List.nodup_singleton i)
    intro j inside single
    exact ((mem_erase j).mp inside).1 (List.mem_singleton.mp single)
  · intro j
    rw [List.mem_append, mem_erase, List.mem_singleton]
    by_cases same : j = i
    · subst same
      cases own with
      | inl reads => simp [reads.1]
      | inr writes => simp [writes]
    · rw [serial.mem_order]
      show j ≠ i ∧ pool.standing j ≠ .away ∨ j = i ↔ standing j ≠ .away
      rw [Ne, Ne, Ne, (others j same).1]
      simp [same]
  · rw [chain_append_iff]
    refine ⟨found, chain.congr ?_, ?_, ?_⟩
    · intro j inside
      have apart := ((mem_erase j).mp inside).1
      rw [Function.update_of_ne apart, Function.update_of_ne apart]
      exact ⟨rfl, rfl⟩
    · rw [Function.update_self]
    · exact Function.update_self _ _ _
  · intro j inside
    by_cases same : j = i
    · subst same
      simp only [Function.update_self]
      exact ⟨sound, makes⟩
    · simp only [Function.update_of_ne same]
      cases List.mem_append.mp inside with
      | inl kept => exact serial.touched j ((mem_erase j).mp kept).2
      | inr single => exact absurd (List.mem_singleton.mp single) same
  · intro j outside c soundHere
    rw [List.mem_append, mem_erase, List.mem_singleton] at outside
    have same : j ≠ i := fun is => outside (.inr is)
    simp only [Function.update_of_ne same]
    exact serial.untouched j (fun inside => outside (.inl ⟨same, inside⟩)) c soundHere
  · intro j reads
    by_cases same : j = i
    · subst same
      simp only [Function.update_self, and_true]
      cases own with
      | inl is => exact is.2
      | inr writes => exact nomatch writes.symm.trans reads
    · simp only [Function.update_of_ne same]
      obtain ⟨was, view, -⟩ := (others j same).2 (.inl reads)
      rw [view]
      exact serial.reading j (was.symm.trans reads)
  · intro j writes
    by_cases same : j = i
    · subst same
      exact ⟨Function.update_self _ _ _, .inr List.getLast?_concat⟩
    · simp only [Function.update_of_ne same]
      obtain ⟨was, view, settled⟩ := (others j same).2 (.inr writes)
      rw [view]
      exact ⟨(serial.writing j (was.symm.trans writes)).1, .inl (settled writes)⟩

/-- Reading again what none has written since changes nothing in the order. -/
theorem step_again (serial : Serialization cell start first pool) (lawful : cell.Lawful)
    (performs : pool.programs i = perform op rest) (allowed : cell.allowed op)
    (reads : cell.touch op = .read) (inside : i ∈ serial.order) (current : serial.after i = cell.view pool.state) :
    Nonempty (Serialization cell start first
      ⟨Function.update pool.programs i (rest (cell.respond i op pool.state).1),
        (cell.respond i op pool.state).2, pool.standing⟩) := by
  have same : cell.view (cell.respond i op pool.state).2 = cell.view pool.state := by
    rw [(lawful.sees i op pool.state allowed (by rw [reads]; decide)).2,
      lawful.still i op _ (.inl reads)]
  have goes := result_of_seen lawful i rest allowed (by rw [reads]; decide) pool.state
  refine ⟨{
    order := serial.order
    before := serial.before
    after := serial.after
    left := _
    nodup := serial.nodup
    mem_order := serial.mem_order
    chain := ?_
    transaction := serial.transaction_update lawful performs
    touched := ?_
    untouched := ?_
    reading := ?_
    writing := ?_
    sound := ?_ }⟩
  · rw [same]
    exact serial.chain
  · intro j member
    obtain ⟨sound, makes⟩ := serial.touched j member
    refine ⟨sound, ?_⟩
    by_cases is : j = i
    · subst is
      rw [same, ← current] at goes
      simp only [Function.update_self]
      rw [goes, ← performs, makes]
    · simp only [Function.update_of_ne is]
      exact makes
  · intro j outside c sound
    have is : j ≠ i := fun is => outside (is ▸ inside)
    simp only [Function.update_of_ne is]
    exact serial.untouched j outside c sound
  · rw [same]
    exact serial.reading
  · rw [same]
    intro j writes
    obtain ⟨is, last⟩ := serial.writing j writes
    exact ⟨is, last.imp_left (settled_update performs)⟩
  · rw [same]
    exact serial.sound

/-- What the others lead to, when a program is to write that none has overtaken. -/
theorem exists_found (serial : Serialization cell start first pool)
    (performs : pool.programs i = perform op rest) (writes : cell.touch op = .write)
    (current : pool.standing i ≠ .overtaken) :
    ∃ found, Chain serial.before serial.after first (serial.order.erase i) found ∧
      cell.result i (perform op rest) (cell.view pool.state) = cell.result i (start i) found := by
  cases standing : pool.standing i with
  | away =>
    have outside : i ∉ serial.order := fun inside => (serial.mem_order i).mp inside standing
    rw [List.erase_of_not_mem outside]
    have makes := serial.untouched i outside _ serial.sound
    rw [performs] at makes
    exact ⟨_, serial.chain, makes⟩
  | reading =>
    obtain ⟨idle, is⟩ := serial.reading i standing
    have inside : i ∈ serial.order := (serial.mem_order i).mpr (by rw [standing]; decide)
    have makes := (serial.touched i inside).2
    rw [performs, idle, is] at makes
    exact ⟨_, serial.chain.erase idle, makes⟩
  | writing =>
    obtain ⟨is, last⟩ := serial.writing i standing
    have inside : i ∈ serial.order := (serial.mem_order i).mpr (by rw [standing]; decide)
    have makes := (serial.touched i inside).2
    rw [performs, is] at makes
    have unsettled : ¬ cell.Settled (pool.programs i) := by
      rw [performs]
      exact fun settled => settled.1 writes
    obtain ⟨others, whole⟩ :=
      List.getLast?_eq_some_iff.mp (last.resolve_left unsettled)
    have nodup := serial.nodup
    rw [whole] at nodup
    have outside : i ∉ others := fun member =>
      (List.nodup_append.mp nodup).2.2 i member i (List.mem_singleton_self i) rfl
    have chain := serial.chain
    rw [whole] at chain
    have erased : serial.order.erase i = others := by
      rw [whole, List.erase_append_right _ outside, List.erase_cons_head, List.append_nil]
    rw [erased]
    exact ⟨_, chain.last.1, makes⟩
  | overtaken => exact absurd standing current

/-- An action in turn keeps an order. -/
theorem step (serial : Serialization cell start first pool) (lawful : cell.Lawful)
    (inTurn : cell.InTurn pool i) (moved : cell.step pool i = some next) :
    Nonempty (Serialization cell start first next) := by
  unfold SharedCell.step at moved
  split at moved
  · next op rest performs =>
    obtain rfl := Option.some.inj moved
    obtain ⟨current, clean⟩ := inTurn op rest performs
    have transaction := serial.transaction i
    rw [performs] at transaction
    have allowed := transaction.1.1
    cases touched : cell.touch op with
    | inner =>
      rw [← touched]
      exact serial.step_unseen lawful performs (.inl touched)
    | outer =>
      rw [← touched]
      exact serial.step_unseen lawful performs (.inr touched)
    | read =>
      have seen : cell.touch op ≠ .outer := by
        rw [touched]
        decide
      have same : cell.view (cell.respond i op pool.state).2 = cell.view pool.state := by
        rw [(lawful.sees i op pool.state allowed seen).2, lawful.still i op _ (.inl touched)]
      have goes := result_of_seen lawful i rest allowed seen pool.state
      cases standing : pool.standing i with
      | away =>
        have outside : i ∉ serial.order := fun inside => (serial.mem_order i).mp inside standing
        have makes := serial.untouched i outside _ serial.sound
        rw [performs] at makes
        have chain : Chain serial.before serial.after first (serial.order.erase i)
            (cell.view pool.state) := by
          rw [List.erase_of_not_mem outside]
          exact serial.chain
        apply serial.step_last lawful performs chain (goes.trans makes)
        · exact .inl ⟨by simp [stand, standing], same.symm⟩
        · intro j apart
          have stays : stand pool.standing i .read j = pool.standing j :=
            Function.update_of_ne apart _ _
          rw [stays]
          exact ⟨Iff.rfl, fun _ => ⟨rfl, same, clean touched j apart⟩⟩
      | reading =>
        have stays : stand pool.standing i .read = pool.standing := by
          simp [stand, standing, Function.update_eq_self_iff]
        rw [stays]
        exact serial.step_again lawful performs allowed touched
          ((serial.mem_order i).mpr (by rw [standing]; decide)) (serial.reading i standing).2
      | writing =>
        have stays : stand pool.standing i .read = pool.standing := by
          simp [stand, standing, Function.update_eq_self_iff]
        rw [stays]
        exact serial.step_again lawful performs allowed touched
          ((serial.mem_order i).mpr (by rw [standing]; decide)) (serial.writing i standing).1
      | overtaken => exact absurd standing (current (.inl touched))
    | write =>
      have seen : cell.touch op ≠ .outer := by
        rw [touched]
        decide
      obtain ⟨found, chain, makes⟩ := serial.exists_found performs touched (current (.inr touched))
      have goes := result_of_seen lawful i rest allowed seen pool.state
      apply serial.step_last lawful performs chain (goes.trans makes)
      · exact .inr (if_pos rfl)
      · intro j apart
        simp only [stand, if_neg apart]
        by_cases away : pool.standing j = .away
        · simp [away]
        · simp [away]
  · cases moved
  · cases moved

end Serialization

end Serialization

section Order

variable {start : ι → Program Op Answer ε Unit} {before after : ι → C}

/-- A chain of what programs make is their fold. -/
theorem Chain.foldl {first last : C} {order : List ι} (chain : Chain before after first order last)
    (makes : ∀ i ∈ order, after i = cell.result i (start i) (before i)) :
    order.foldl (fun c i => cell.result i (start i) c) first = last := by
  induction order generalizing first with
  | nil => exact chain
  | cons i rest ih =>
    obtain ⟨found, later⟩ := chain
    rw [makes i List.mem_cons_self, found] at later
    exact ih later fun j inside => makes j (List.mem_cons_of_mem i inside)

end Order

end SharedCell

end VelaFlow.Program
