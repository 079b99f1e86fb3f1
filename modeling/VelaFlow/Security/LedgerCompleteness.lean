import VelaFlow.Foundation.Machine
import VelaFlow.Security.LedgerEntries

/-!
# When the ledger verifies

Runs of one ledger directory: calls of `log`, rotations, restarts and changes of the day. The
chain in memory starts anew with a ledger and with each rotation, the chain of the verifier with
each file. Every file verifies exactly as long as the two start together.
-/
namespace VelaFlow.Security

open JsonText

/-- What happens to a log directory. -/
inductive LedgerEvent where
  /-- A call of `log`, with the time of its entry and the day it is appended on. -/
  | log (call : LogCall) (ts : DateTime) (day : Date)
  /-- A new `ActionLedger` on the same directory. -/
  | restart (maxEntries : Nat) (positive : 0 < maxEntries)

/-- A ledger, its directory, and the number of the latest day on which it was used. -/
structure LedgerState where
  /-- The ledger in memory. -/
  ledger : Ledger
  /-- The files. -/
  dir : LogDir := fun _ => []
  /-- The number of the latest day. -/
  today : Nat := 0

/-- One event; the day does not go back. -/
def ledgerStep (library : LedgerLibrary) (state : LedgerState) : LedgerEvent → Option LedgerState
  | .log call ts day =>
    if state.today ≤ day.number then
      let logged := state.ledger.log library state.dir call ts day
      some ⟨logged.1, logged.2, day.number⟩
    else none
  | .restart maxEntries positive => some { state with ledger := { maxEntries, positive } }

/-- Whether the chain of a ledger starts anew: it has logged nothing, or has just rotated. -/
def Ledger.startsChain (ledger : Ledger) : Prop := ledger.entryCount % ledger.maxEntries = 0

/-- A call starts a file exactly when it starts a chain. -/
def StartsTogether (state : LedgerState) : LedgerEvent → Prop
  | .log _ _ day => state.dir day = [] ↔ state.ledger.startsChain
  | .restart _ _ => True

section Invariant

variable {library : LedgerLibrary}

/-- The entries behind the files of a directory, and how the memory of the ledger relates to
them. -/
structure Records (library : LedgerLibrary) (state : LedgerState) (entries : Date → List Dict) :
    Prop where
  /-- The files hold the lines of entries. -/
  lines : ∀ day, state.dir day = (entries day).map (entryLine library)
  /-- The entries are what the ledger makes. -/
  made : ∀ day, ∀ entry ∈ entries day, IsEntry library entry
  /-- No file is of a later day. -/
  past : ∀ day, entries day ≠ [] → day.number ≤ state.today
  /-- A chain that starts anew names no hash. -/
  fresh : state.ledger.startsChain → state.ledger.lastHash = ""
  /-- A chain that goes on names the last hash of the latest file. -/
  goesOn : ¬ state.ledger.startsChain → ∃ day, entries day ≠ [] ∧
    state.ledger.lastHash = HashChain.tip library.computeHash "" (entries day) ∧
    ∀ other, entries other ≠ [] → other.number ≤ day.number

/-- A computed hash is not empty. -/
theorem computeHash_ne_empty (entry : Dict) : library.computeHash entry ≠ "" :=
  hexdigest_ne_empty _

/-- Only a chain without entries has no last hash. -/
theorem tip_eq_empty_iff {entries : List Dict} :
    HashChain.tip library.computeHash "" entries = "" ↔ entries = [] := by
  constructor
  · intro empty
    rcases @HashChain.tip_mem _ _ library.computeHash "" entries with ⟨-, none⟩ |
      ⟨entry, -, last⟩
    · exact none
    · exact absurd (last.symm.trans empty) (computeHash_ne_empty entry)
  · rintro rfl
    rfl

/-- The memory of a ledger names the end of the file of a day exactly when it starts a chain
with the file, or goes on with both. -/
theorem lastHash_eq_tip_iff {state : LedgerState} {entries : Date → List Dict}
    (records : Records library state entries) {day : Date} (onTime : state.today ≤ day.number) :
    state.ledger.lastHash = HashChain.tip library.computeHash "" (entries day) ↔
      (state.dir day = [] ↔ state.ledger.startsChain) := by
  have file : state.dir day = [] ↔ entries day = [] := by
    rw [records.lines, List.map_eq_nil_iff]
  rw [file]
  by_cases starts : state.ledger.startsChain
  · rw [records.fresh starts, eq_comm, tip_eq_empty_iff]
    exact (iff_true_right starts).symm
  · obtain ⟨last, some, named, latest⟩ := records.goesOn starts
    have filled : state.ledger.lastHash ≠ "" := by
      rw [named]
      exact fun empty => some (tip_eq_empty_iff.mp empty)
    by_cases none : entries day = []
    · rw [none]
      exact iff_of_false filled (fun both => starts (both.mp rfl))
    · have same : last = day := by
        have before := latest day none
        have after := records.past last some
        exact Date.number_inj (by omega)
      rw [named, same]
      exact iff_of_true rfl ⟨fun is => absurd is none, fun is => absurd is starts⟩

/-- Every file verifies when the entries of every day are a chain. -/
theorem verifyChain_iff_linked {state : LedgerState} {entries : Date → List Dict}
    (records : Records library state entries) (day : Date) :
    verifyChain library state.dir day = .ok true ↔
      HashChain.Linked entryLink library.computeHash "" (entries day) := by
  unfold verifyChain
  rw [records.lines]
  exact verifyLines_entries (records.made day) ""

/-- A call of `log` appends its entry to the file of the day. -/
theorem records_log {state : LedgerState} {entries : Date → List Dict}
    (records : Records library state entries) (call : LogCall) (ts : DateTime) {day : Date}
    (onTime : state.today ≤ day.number) :
    let entry := makeEntry library call ts state.ledger.lastHash
    let logged := state.ledger.log library state.dir call ts day
    Records library ⟨logged.1, logged.2, day.number⟩
      (Function.update entries day (entries day ++ [entry])) := by
  intro entry logged
  have is := (@isEntry_makeEntry library call ts state.ledger.lastHash).1
  have filled : ∀ other, Function.update entries day (entries day ++ [entry]) other ≠ [] →
      other = day ∨ entries other ≠ [] := by
    intro other some
    by_cases same : other = day
    · exact Or.inl same
    · rw [Function.update_of_ne same] at some
      exact Or.inr some
  have rotates : logged.1.startsChain ↔
      0 < state.ledger.entryCount + 1 ∧
        (state.ledger.entryCount + 1) % state.ledger.maxEntries = 0 := by
    simp only [logged, Ledger.log, Ledger.append, Ledger.startsChain]
    split
    case isTrue rotated => exact iff_of_true rotated.2 rotated
    case isFalse stays => exact iff_of_false (fun zero => stays ⟨Nat.succ_pos _, zero⟩) stays
  constructor
  · intro other
    by_cases same : other = day
    · subst same
      simp [logged, Ledger.log, Ledger.append, LogDir.append, records.lines, entryLine, entry]
    · simp [logged, Ledger.log, Ledger.append, LogDir.append, Function.update_of_ne same,
        records.lines]
  · intro other made inside
    by_cases same : other = day
    · subst same
      rw [Function.update_self] at inside
      rcases List.mem_append.mp inside with old | new
      · exact records.made other made old
      · rw [List.mem_singleton.mp new]
        exact is
    · rw [Function.update_of_ne same] at inside
      exact records.made other made inside
  · intro other some
    rcases filled other some with rfl | old
    · exact Nat.le_refl _
    · exact Nat.le_trans (records.past other old) onTime
  · intro starts
    have rotated := rotates.mp starts
    simp only [logged, Ledger.log, Ledger.append, rotated, and_self, if_true]
  · intro stays
    have same : ¬(0 < state.ledger.entryCount + 1 ∧
        (state.ledger.entryCount + 1) % state.ledger.maxEntries = 0) :=
      fun rotated => stays (rotates.mpr rotated)
    refine ⟨day, by simp, ?_, ?_⟩
    · simp only [logged, Ledger.log, Ledger.append, same, if_false, Function.update_self,
        HashChain.tip_concat, entry]
    · intro other some
      rcases filled other some with rfl | old
      · exact Nat.le_refl _
      · exact Nat.le_trans (records.past other old) onTime

/-- One event keeps the records, and keeps the files verified exactly when it starts a file
together with a chain. -/
theorem ledgerStep_verifies {state : LedgerState} {event : LedgerEvent} {next : LedgerState}
    (known : ∃ entries, Records library state entries)
    (moved : ledgerStep library state event = some next) :
    (∃ entries, Records library next entries) ∧
      ((∀ day, verifyChain library next.dir day = .ok true) ↔
        (∀ day, verifyChain library state.dir day = .ok true) ∧ StartsTogether state event) := by
  obtain ⟨entries, records⟩ := known
  cases event with
  | restart maxEntries positive =>
    obtain rfl := Option.some.inj moved
    refine ⟨⟨entries, records.lines, records.made, records.past, fun _ => rfl, ?_⟩, ?_⟩
    · exact fun stays => absurd (Nat.zero_mod maxEntries) stays
    · simp [StartsTogether]
  | log call ts day =>
    by_cases onTime : state.today ≤ day.number
    · simp only [ledgerStep, onTime, if_true, Option.some.injEq] at moved
      have later := records_log records call ts onTime
      have link := (@isEntry_makeEntry library call ts state.ledger.lastHash).2
      rw [← moved]
      refine ⟨⟨_, later⟩, ?_⟩
      simp only [verifyChain_iff_linked later, verifyChain_iff_linked records, StartsTogether]
      rw [← lastHash_eq_tip_iff records onTime]
      constructor
      · intro linked
        have appended := linked day
        rw [Function.update_self, HashChain.linked_concat, link] at appended
        refine ⟨fun other => ?_, appended.2⟩
        by_cases same : other = day
        · rw [same]
          exact appended.1
        · have kept := linked other
          rw [Function.update_of_ne same] at kept
          exact kept
      · rintro ⟨linked, named⟩ other
        by_cases same : other = day
        · rw [same, Function.update_self, HashChain.linked_concat, link]
          exact ⟨linked day, named⟩
        · rw [Function.update_of_ne same]
          exact linked other
    · simp [ledgerStep, onTime] at moved

/-- A new ledger on an empty directory. -/
def LedgerState.start (maxEntries : Nat) (positive : 0 < maxEntries) : LedgerState where
  ledger := { maxEntries, positive }

/-- A new ledger on an empty directory has no records. -/
theorem records_start (library : LedgerLibrary) (maxEntries : Nat) (positive : 0 < maxEntries) :
    Records library (LedgerState.start maxEntries positive) fun _ => [] where
  lines _ := rfl
  made _ _ inside := absurd inside List.not_mem_nil
  past _ some := absurd rfl some
  fresh _ := rfl
  goesOn stays := absurd (Nat.zero_mod maxEntries) stays

/-- In every run from an empty directory the files verify exactly when every call starts a file
together with a chain. -/
theorem run_verifies_iff {maxEntries : Nat} {positive : 0 < maxEntries}
    {events : List LedgerEvent} {final : LedgerState}
    (ran : Machine.run (ledgerStep library) (LedgerState.start maxEntries positive) events =
      some final) :
    (∀ day, verifyChain library final.dir day = .ok true) ↔
      Machine.Meets (ledgerStep library) StartsTogether (LedgerState.start maxEntries positive)
        events := by
  have empty : ∀ day, verifyChain library (LedgerState.start maxEntries positive).dir day =
      .ok true := fun _ => rfl
  rw [Machine.run_iff_meets (fun state => ∃ entries, Records library state entries)
    (fun state => ∀ day, verifyChain library state.dir day = .ok true)
    (fun _ _ _ known moved => ledgerStep_verifies known moved)
    ⟨_, records_start library maxEntries positive⟩ ran]
  exact and_iff_right empty

end Invariant

section Sample

/-- Two calls on one day, with a restart in between. -/
def restartedEvents : List LedgerEvent :=
  [.log sampleCall sampleTime sampleDay, .restart 50000 (by decide),
   .log sampleCall sampleTime sampleDay]

/-- What a restart between two calls leaves. -/
def restartedState : LedgerState :=
  let first := Ledger.log sampleLibrary { maxEntries := 50000, positive := by decide }
    (fun _ => []) sampleCall sampleTime sampleDay
  let second := Ledger.log sampleLibrary { maxEntries := 50000, positive := by decide } first.2
    sampleCall sampleTime sampleDay
  ⟨second.1, second.2, sampleDay.number⟩

/-- The calls and the restart are a run. -/
theorem run_restartedEvents :
    Machine.run (ledgerStep sampleLibrary) (LedgerState.start 50000 (by decide))
      restartedEvents = some restartedState := by
  have early : ¬(sampleDay.number < 0) := Nat.not_lt_zero _
  simp [restartedEvents, restartedState, ledgerStep, LedgerState.start]

/-- After a restart on a day that has a file, the file does not verify. -/
theorem restarted_not_verified :
    Machine.run (ledgerStep sampleLibrary) (LedgerState.start 50000 (by decide))
        restartedEvents = some restartedState ∧
      verifyChain sampleLibrary restartedState.dir sampleDay ≠ .ok true := by
  refine ⟨run_restartedEvents, ?_⟩
  have is := @isEntry_makeEntry sampleLibrary sampleCall sampleTime ""
  let entry := makeEntry sampleLibrary sampleCall sampleTime ""
  have file : restartedState.dir sampleDay =
      [entry, entry].map (entryLine sampleLibrary) := by
    simp [restartedState, Ledger.log, Ledger.append, LogDir.append, entryLine, entry]
  have made : ∀ other ∈ [entry, entry], IsEntry sampleLibrary other := by
    intro other inside
    have same : other = entry := by simpa using inside
    rw [same]
    exact is.1
  unfold verifyChain
  rw [file]
  intro verified
  have linked := (verifyLines_entries made "").mp verified
  exact computeHash_ne_empty entry (linked.2.1.symm.trans is.2)

/-- The rule for a run that is cut short by a restart. -/
theorem run_verifies_iff_restarted :
    (∀ day, verifyChain sampleLibrary restartedState.dir day = .ok true) ↔
      Machine.Meets (ledgerStep sampleLibrary) StartsTogether
        (LedgerState.start 50000 (by decide)) restartedEvents :=
  run_verifies_iff run_restartedEvents

end Sample

end VelaFlow.Security
