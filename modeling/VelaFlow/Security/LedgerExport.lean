import VelaFlow.Pipeline.Silver
import VelaFlow.Security.LedgerCompleteness

/-!
# What the ledger exports

`export` reads the two newest files, the newest first, and returns the last of the entries it has
read. The last of them stem from the older file, so where that has enough entries none of the newest
file is exported. `summary` counts what is exported.
-/
namespace VelaFlow.Security

open JsonText
open Pipeline (hashable sameKey unhashable)

/-- The days that have a file, as `sorted(glob(…), reverse=True)` lists the files. -/
structure Listing (dir : LogDir) where
  /-- The days. -/
  days : List Date
  /-- The newest comes first. -/
  newest : days.Pairwise fun first second => second.number < first.number
  /-- A day without lines has no file. -/
  complete : ∀ day, day ∈ days ↔ dir day ≠ []

/-- The filters of `export`. -/
structure ExportFilter where
  /-- `category`. -/
  category : Option ActionCategory := none
  /-- `tenant_id`. -/
  tenantId : Option String := none
  /-- `errors_only`. -/
  errorsOnly : Bool := false

namespace ExportFilter

variable (filter : ExportFilter)

/-- `tenant_id`, unless it is empty. -/
def tenant? : Option String := filter.tenantId.filter fun name => decide (name ≠ "")

/-- `entry.get(key) == text`. -/
def holds (members : Dict) (key text : String) : Bool :=
  ((members.get? key).map fun value => equalsStr value text).getD false

/-- Whether an entry passes the filters. -/
def passes (members : Dict) : Bool :=
  (filter.category.all fun category => holds members "cat" category.value) &&
    (filter.tenant?.all fun name => holds members "tid" name) &&
    !(filter.errorsOnly && holds members "status" "ok")

/-- Whether a line that was read passes the filters. Any of them asks for a dictionary. -/
def wanted : Json → Except PyException Bool
  | .obj members => .ok (filter.passes members)
  | _ =>
    if filter.category.isSome || filter.tenant?.isSome || filter.errorsOnly then
      .error (.other "AttributeError" "get")
    else .ok true

/-- Whether a call passes the filters. -/
def selects (call : LogCall) : Bool :=
  (filter.category.all fun category => decide (call.category = category)) &&
    (filter.tenant?.all fun name => decide (cut call.tenantId 256 = name)) &&
    !(filter.errorsOnly && decide (call.status = "ok"))

end ExportFilter

/-- `items[-n:]`. -/
def lastItems {α : Type} (n : Int) (items : List α) : List α :=
  if 0 < n then items.drop (items.length - n.toNat) else items.drop n.natAbs

/-- The entries of a file that pass the filters; what is no JSON is skipped. -/
def exportLines (library : LedgerLibrary) (filter : ExportFilter) :
    List (List Char) → Except PyException (List Json)
  | [] => .ok []
  | line :: rest =>
    let text := strip line
    if text = [] then exportLines library filter rest
    else
      match loads library.floats text with
      | none => exportLines library filter rest
      | some entry => do
        let keep ← filter.wanted entry
        let more ← exportLines library filter rest
        pure (if keep then entry :: more else more)

/-- `export`. -/
def exportEntries (library : LedgerLibrary) {dir : LogDir} (listing : Listing dir) (lastN : Int)
    (filter : ExportFilter) : Except PyException (List Json) := do
  let entries ← (listing.days.take 2).mapM fun day => exportLines library filter (dir day)
  pure (lastItems lastN entries.flatten)

/-- The fields of an entry that say what was logged. -/
def toldKeys : List String := ["ts", "cat", "act", "tid", "uid", "status"]

/-- What an entry says was logged. -/
def told : Json → List (Option Json)
  | .obj members => toldKeys.map fun key => Dict.get? members key
  | _ => []

/-- A call of `log`, with the time of its entry. -/
structure Logged where
  /-- The call. -/
  call : LogCall
  /-- The time. -/
  ts : DateTime

/-- What is logged by a call. -/
def Logged.tells (logged : Logged) : List (Option Json) :=
  [some (.str logged.ts.isoformat), some (.str logged.call.category.value),
    some (.str (cut logged.call.action 512)), some (.str (cut logged.call.tenantId 256)),
    some (.str (cut logged.call.userId 256)), some (.str logged.call.status)]

/-- The calls of `log` that append to the file of a day. -/
def loggedOn (events : List LedgerEvent) (day : Date) : List Logged :=
  events.filterMap fun event =>
    match event with
    | .log call ts other => if other = day then some ⟨call, ts⟩ else none
    | .restart _ _ => none

/-- An entry is that of a call. -/
def EntryOf (library : LedgerLibrary) (entry : Dict) (logged : Logged) : Prop :=
  ∃ lastHash, entry = makeEntry library logged.call logged.ts lastHash

section Entries

variable {library : LedgerLibrary}

/-- A field with a value is in the entry. -/
theorem get?_makeEntry {call : LogCall} {ts : DateTime} {lastHash key : String} {value : Json}
    (field : (key, value) ∈ entryFields library call ts lastHash) (filled : isNone value = false)
    (other : key ≠ "hash") :
    (makeEntry library call ts lastHash).get? key = some value := by
  obtain ⟨keys, -⟩ := @held_entryFields library call ts lastHash
  let kept : Dict := (entryFields library call ts lastHash).filter fun pair => !isNone pair.2
  have sub : kept.Sublist (entryFields library call ts lastHash) := List.filter_sublist
  have distinct : kept.keys.Nodup := by
    apply (sub.map Prod.fst).nodup
    rw [show List.map Prod.fst (entryFields library call ts lastHash) = _ from keys]
    decide
  have made : makeEntry library call ts lastHash =
      kept.set "hash" (.str (library.computeHash kept)) := rfl
  rw [made, Dict.get?_set_ne _ _ other]
  apply Dict.get?_of_mem distinct
  exact List.mem_filter.mpr ⟨field, by simp [filled]⟩

/-- The fields of an entry that tell what its call logs. -/
structure Tells (entry : Dict) (logged : Logged) : Prop where
  /-- The time. -/
  ts : entry.get? "ts" = some (.str logged.ts.isoformat)
  /-- The category. -/
  cat : entry.get? "cat" = some (.str logged.call.category.value)
  /-- The action. -/
  act : entry.get? "act" = some (.str (cut logged.call.action 512))
  /-- The tenant. -/
  tid : entry.get? "tid" = some (.str (cut logged.call.tenantId 256))
  /-- The user. -/
  uid : entry.get? "uid" = some (.str (cut logged.call.userId 256))
  /-- The status. -/
  status : entry.get? "status" = some (.str logged.call.status)

/-- The entry of a call tells what the call logs. -/
theorem EntryOf.tells {entry : Dict} {logged : Logged} (is : EntryOf library entry logged) :
    Tells entry logged := by
  obtain ⟨lastHash, rfl⟩ := is
  constructor
  · exact get?_makeEntry (by simp [entryFields]) rfl (by decide)
  · exact get?_makeEntry (by simp [entryFields]) rfl (by decide)
  · exact get?_makeEntry (by simp [entryFields]) rfl (by decide)
  · exact get?_makeEntry (by simp [entryFields]) rfl (by decide)
  · exact get?_makeEntry (by simp [entryFields]) rfl (by decide)
  · exact get?_makeEntry (by simp [entryFields]) rfl (by decide)

/-- What an entry says was logged is what its call logs. -/
theorem EntryOf.told {entry : Dict} {logged : Logged} (is : EntryOf library entry logged) :
    told (.obj entry) = logged.tells := by
  have ⟨ts, cat, act, tid, uid, status⟩ := is.tells
  simp only [Security.told, toldKeys, List.map_cons, List.map_nil, Logged.tells, ts, cat, act, tid,
    uid, status]

/-- Two categories have two values. -/
theorem ActionCategory.value_inj {one other : ActionCategory} :
    one.value = other.value ↔ one = other := by
  constructor
  · intro same
    cases one <;> cases other <;> first | rfl | exact absurd same (by decide)
  · exact congrArg ActionCategory.value

/-- The entry of a call passes the filters when the call does. -/
theorem ExportFilter.passes_eq (filter : ExportFilter) {entry : Dict} {logged : Logged}
    (is : EntryOf library entry logged) : filter.passes entry = filter.selects logged.call := by
  have tells := is.tells
  have holds : ∀ {key text value : String}, entry.get? key = some (.str value) →
      ExportFilter.holds entry key text = decide (value = text) := by
    intro key text value found
    simp [ExportFilter.holds, found, equalsStr]
  have category : ∀ other : ActionCategory, ExportFilter.holds entry "cat" other.value =
      decide (logged.call.category = other) := fun other => by
    rw [holds tells.cat]
    exact decide_eq_decide.mpr ActionCategory.value_inj
  unfold ExportFilter.passes ExportFilter.selects
  simp only [category, holds tells.tid, holds tells.status]

/-- Of the file of some calls the entries of the selected ones are exported. -/
theorem exportLines_entries (filter : ExportFilter) {entries : List Dict} {calls : List Logged}
    (are : ∀ entry ∈ entries, IsEntry library entry)
    (matched : List.Forall₂ (EntryOf library) entries calls) :
    ∃ kept, exportLines library filter (entries.map (entryLine library)) = .ok kept ∧
      kept.map told = (calls.filter fun logged => filter.selects logged.call).map Logged.tells := by
  induction matched with
  | nil => exact ⟨[], rfl, rfl⟩
  | @cons entry logged rest others is _ ih =>
    obtain ⟨kept, exported, tells⟩ := ih fun other inside => are other (List.mem_cons_of_mem _ inside)
    have ⟨stripped, filled⟩ := @strip_entryLine library entry
    have read := loads_entryLine (are entry List.mem_cons_self)
    refine ⟨if filter.passes entry then .obj entry :: kept else kept, ?_, ?_⟩
    · rw [List.map_cons, exportLines]
      rw [stripped, if_neg filled, read]
      show (do
        let more ← exportLines library filter (rest.map (entryLine library))
        pure (if filter.passes entry then Json.obj entry :: more else more)) = _
      rw [exported]
      rfl
    · rw [filter.passes_eq is]
      cases chosen : filter.selects logged.call with
      | false => rw [List.filter_cons_of_neg (by simp [chosen]), if_neg (by decide), tells]
      | true =>
        rw [List.filter_cons_of_pos (by simp [chosen]), if_pos rfl, List.map_cons, List.map_cons, is.told,
          tells]

end Entries

section Runs

variable {library : LedgerLibrary} {maxEntries : Nat} {positive : 0 < maxEntries}

/-- Calls that come later are appended to their files. -/
theorem loggedOn_append (events more : List LedgerEvent) (day : Date) :
    loggedOn (events ++ more) day = loggedOn events day ++ loggedOn more day :=
  List.filterMap_append

/-- After a run every file holds the entries of the calls of its day, in order. -/
theorem entries_after_run {events : List LedgerEvent} {final : LedgerState}
    (ran : Machine.run (ledgerStep library) (LedgerState.start maxEntries positive) events =
      some final) :
    ∃ entries, Records library final entries ∧
      ∀ day, List.Forall₂ (EntryOf library) (entries day) (loggedOn events day) := by
  induction events using List.reverseRecOn generalizing final with
  | nil =>
    obtain rfl := Option.some.inj ran
    exact ⟨_, records_start library maxEntries positive, fun _ => .nil⟩
  | append_singleton earlier event ih =>
    rw [Machine.run_append, Option.bind_eq_some_iff] at ran
    obtain ⟨state, before, moved⟩ := ran
    rw [Machine.run_singleton] at moved
    obtain ⟨entries, records, matched⟩ := ih before
    cases event with
    | restart more some' =>
      obtain rfl := Option.some.inj moved
      refine ⟨entries, ⟨records.lines, records.made, records.past, fun _ => rfl,
        fun stays => absurd (Nat.zero_mod more) stays⟩, fun day => ?_⟩
      rw [loggedOn_append]
      simpa [loggedOn] using matched day
    | log call ts day =>
      by_cases onTime : state.today ≤ day.number
      · simp only [ledgerStep, onTime, if_true, Option.some.injEq] at moved
        rw [← moved]
        refine ⟨_, records_log records call ts onTime, fun other => ?_⟩
        rw [loggedOn_append]
        by_cases same : other = day
        · subst same
          have last : loggedOn [.log call ts other] other = [⟨call, ts⟩] := by simp [loggedOn]
          rw [Function.update_self, last]
          exact List.rel_append (matched other)
            (.cons ⟨state.ledger.lastHash, rfl⟩ .nil)
        · have none : loggedOn [.log call ts day] other = [] := by
            simp [loggedOn, Ne.symm same]
          rw [Function.update_of_ne same, none, List.append_nil]
          exact matched other
      · simp [ledgerStep, onTime] at moved

/-- What the files of some days export. -/
theorem exportLines_days {events : List LedgerEvent} {final : LedgerState}
    (ran : Machine.run (ledgerStep library) (LedgerState.start maxEntries positive) events =
      some final) (filter : ExportFilter) (days : List Date) :
    ∃ read, days.mapM (fun day => exportLines library filter (final.dir day)) = .ok read ∧
      read.flatten.map told = ((days.flatMap (loggedOn events)).filter fun logged =>
        filter.selects logged.call).map Logged.tells := by
  obtain ⟨entries, records, matched⟩ := entries_after_run ran
  induction days with
  | nil => exact ⟨[], rfl, rfl⟩
  | cons day rest ih =>
    obtain ⟨read, others, tells⟩ := ih
    obtain ⟨kept, exported, first⟩ := exportLines_entries filter (records.made day) (matched day)
    rw [← records.lines] at exported
    refine ⟨kept :: read, mapM_cons_ok_iff.mpr ⟨kept, read, exported, others, rfl⟩, ?_⟩
    rw [List.flatten_cons, List.map_append, first, tells, List.flatMap_cons, List.filter_append,
      List.map_append]

end Runs

section Last

variable {α β : Type}

/-- The last of the images are the images of the last. -/
theorem map_lastItems (function : α → β) (n : Int) (items : List α) :
    (lastItems n items).map function = lastItems n (items.map function) := by
  unfold lastItems
  split
  · rw [List.map_drop, List.length_map]
  · rw [List.map_drop]

/-- The last items stem from the end as long as it has enough. -/
theorem lastItems_append {n : Int} (some' : 0 < n) (first : List α) {second : List α}
    (enough : n ≤ second.length) : lastItems n (first ++ second) = lastItems n second := by
  unfold lastItems
  rw [if_pos some', if_pos some', List.length_append]
  have skips : first.length + second.length - n.toNat =
      first.length + (second.length - n.toNat) := by omega
  rw [skips, List.drop_length_add_append]

end Last

/-- The calls whose entries are exported, in the order in which they are read. -/
def selected (events : List LedgerEvent) (filter : ExportFilter) (days : List Date) : List Logged :=
  (days.flatMap (loggedOn events)).filter fun logged => filter.selects logged.call

/-- After a run an export raises nothing and tells the last of the selected calls. -/
theorem exportEntries_tells {library : LedgerLibrary} {maxEntries : Nat} {positive : 0 < maxEntries}
    {events : List LedgerEvent} {final : LedgerState}
    (ran : Machine.run (ledgerStep library) (LedgerState.start maxEntries positive) events =
      some final) (listing : Listing final.dir) (lastN : Int) (filter : ExportFilter) :
    ∃ exported, exportEntries library listing lastN filter = .ok exported ∧
      exported.map told =
        (lastItems lastN (selected events filter (listing.days.take 2))).map Logged.tells := by
  obtain ⟨read, files, tells⟩ := exportLines_days ran filter (listing.days.take 2)
  refine ⟨lastItems lastN read.flatten, ?_, ?_⟩
  · unfold exportEntries
    rw [files]
    rfl
  · rw [map_lastItems, tells, map_lastItems]
    rfl

section Sample

/-- The second of a January is a day. -/
theorem valid_nextSampleDay :
    1 ≤ 2025 ∧ 2025 ≤ 9999 ∧ 1 ≤ 1 ∧ 1 ≤ 12 ∧ 1 ≤ 2 ∧ 2 ≤ daysInMonth 2025 1 :=
  Date.valid_january (by decide)

/-- The day after the day of the samples. -/
def nextSampleDay : Date := ⟨2025, 1, 2, valid_nextSampleDay⟩

/-- Another call of `log`. -/
def stopCall : LogCall where
  category := .system
  action := "stopped"
  distinct := sampleCall.distinct

/-- A call on each of two days. -/
def twoDayEvents : List LedgerEvent :=
  [.log sampleCall sampleTime sampleDay, .log stopCall sampleTime nextSampleDay]

/-- A file of the samples may hold an entry. -/
theorem positive_maxEntries : 0 < 50000 := by decide

/-- What the calls leave. -/
def twoDayState : LedgerState :=
  let first := Ledger.log sampleLibrary { maxEntries := 50000, positive := positive_maxEntries }
    (fun _ => []) sampleCall sampleTime sampleDay
  let second := Ledger.log sampleLibrary first.1 first.2 stopCall sampleTime nextSampleDay
  ⟨second.1, second.2, nextSampleDay.number⟩

/-- The calls are a run. -/
theorem run_twoDayEvents :
    Machine.run (ledgerStep sampleLibrary) (LedgerState.start 50000 positive_maxEntries)
      twoDayEvents = some twoDayState := by
  have later : sampleDay.number ≤ nextSampleDay.number := by decide +kernel
  simp [twoDayEvents, twoDayState, ledgerStep, LedgerState.start, later]

/-- The two files. -/
theorem dir_twoDayState (day : Date) :
    day ∈ [nextSampleDay, sampleDay] ↔ twoDayState.dir day ≠ [] := by
  have apart : nextSampleDay ≠ sampleDay := by decide
  by_cases second : day = nextSampleDay
  · subst second
    simp [twoDayState, Ledger.log, Ledger.append, LogDir.append]
  · by_cases first : day = sampleDay
    · subst first
      simp [twoDayState, Ledger.log, Ledger.append, LogDir.append, Ne.symm apart]
    · simp [twoDayState, Ledger.log, Ledger.append, LogDir.append, second, first]

/-- The second file is the newer. -/
theorem newest_twoDays : [nextSampleDay, sampleDay].Pairwise
    fun first second => second.number < first.number :=
  List.pairwise_pair.mpr (show sampleDay.number < nextSampleDay.number by decide +kernel)

/-- The listing of the two files. -/
def twoDayListing : Listing twoDayState.dir where
  days := [nextSampleDay, sampleDay]
  newest := newest_twoDays
  complete := dir_twoDayState

end Sample

/-- After every run of calls, rotations and restarts an export tells the last of the selected calls of
the two newest days, those of the newest first. Where the older of the two days has enough of them,
no call of the newest day is told. -/
theorem export_after_run {library : LedgerLibrary} {maxEntries : Nat} {positive : 0 < maxEntries}
    {events : List LedgerEvent} {final : LedgerState}
    (ran : Machine.run (ledgerStep library) (LedgerState.start maxEntries positive) events =
      some final) (listing : Listing final.dir) (lastN : Int) (filter : ExportFilter) :
    ∃ exported, exportEntries library listing lastN filter = .ok exported ∧
      exported.map told =
        (lastItems lastN (selected events filter (listing.days.take 2))).map Logged.tells ∧
      ∀ newest older rest, listing.days = newest :: older :: rest → 0 < lastN →
        lastN ≤ (selected events filter [older]).length →
        exported.map told = (lastItems lastN (selected events filter [older])).map Logged.tells := by
  obtain ⟨exported, done, tells⟩ := exportEntries_tells ran listing lastN filter
  refine ⟨exported, done, tells, ?_⟩
  intro newest older rest days some' enough
  have two : selected events filter (listing.days.take 2) =
      selected events filter [newest] ++ selected events filter [older] := by
    rw [days]
    simp [selected]
  rw [tells, two, lastItems_append some' _ enough]

/-- Of two calls on two days an export of one entry tells the older. -/
theorem export_after_run_twoDays :
    ∃ exported, exportEntries sampleLibrary twoDayListing 1 {} = .ok exported ∧
      exported.map told = [Logged.tells ⟨sampleCall, sampleTime⟩] := by
  obtain ⟨exported, done, -, older⟩ := export_after_run run_twoDayEvents twoDayListing 1 {}
  have chosen : selected twoDayEvents {} [sampleDay] = [⟨sampleCall, sampleTime⟩] := by
    have apart : nextSampleDay ≠ sampleDay := by decide
    simp [selected, loggedOn, twoDayEvents, apart, ExportFilter.selects, ExportFilter.tenant?]
  have tells := older nextSampleDay sampleDay [] rfl (by decide) (by rw [chosen]; decide)
  rw [chosen] at tells
  exact ⟨exported, done, tells⟩

/-- What the loop of `summary` counts. -/
structure Tally where
  /-- `categories`. -/
  categories : List (Json × Nat) := []
  /-- `errors`. -/
  errors : Nat := 0
  /-- `crashes`. -/
  crashes : Nat := 0

/-- `categories[cat] = categories.get(cat, 0) + 1`. -/
def bump : List (Json × Nat) → Json → List (Json × Nat)
  | [], key => [(key, 1)]
  | (other, count) :: rest, key =>
    if sameKey other key then (other, count + 1) :: rest else (other, count) :: bump rest key

/-- The count of a category. -/
def countOf (categories : List (Json × Nat)) (name : String) : Nat :=
  ((categories.find? fun entry => sameKey entry.1 (.str name)).map Prod.snd).getD 0

/-- A status that is none of an error. -/
def fineStatus (status : String) : Bool := ["ok", "200", "201"].contains status

/-- `e.get("status") in ("ok", "200", "201")`. -/
def isFine : Option Json → Bool
  | some (.str status) => fineStatus status
  | _ => false

/-- The loop of `summary`. -/
def tallyUp : Tally → List Json → Except PyException Tally
  | tally, [] => .ok tally
  | tally, .obj members :: rest =>
    let category := Dict.getD members "cat" (.str "unknown")
    if hashable category then
      tallyUp {
        categories := bump tally.categories category
        errors := tally.errors + if isFine (Dict.get? members "status") then 0 else 1
        crashes := tally.crashes + if ExportFilter.holds members "cat" "crash" then 1 else 0 } rest
    else .error (unhashable category)
  | _, _ :: _ => .error (.other "AttributeError" "get")

/-- What `summary` returns. -/
structure LedgerSummary where
  /-- `total_entries`. -/
  totalEntries : Nat
  /-- What is counted of them. -/
  tally : Tally
  /-- `chain_valid`. -/
  chainValid : Bool

/-- `summary`, with the day whose file is verified. -/
def ledgerSummary (library : LedgerLibrary) {dir : LogDir} (listing : Listing dir) (lastN : Int)
    (today : Date) : Except PyException LedgerSummary := do
  let entries ← exportEntries library listing lastN {}
  let tally ← tallyUp {} entries
  let chainValid ← verifyChain library dir today
  pure { totalEntries := entries.length, tally, chainValid }

/-- What is counted of some calls, over what was counted before. -/
structure Counts (calls : List Logged) (before tally : Tally) : Prop where
  /-- The calls of each category. -/
  categories : ∀ category : ActionCategory, countOf tally.categories category.value =
    countOf before.categories category.value +
      calls.countP fun logged => decide (logged.call.category = category)
  /-- The calls that are none of fine status. -/
  errors : tally.errors = before.errors + calls.countP fun logged => !fineStatus logged.call.status
  /-- The crashes. -/
  crashes : tally.crashes = before.crashes +
    calls.countP fun logged => decide (logged.call.category = .crash)

/-- A category that is met again counts one more, and the others as before. -/
theorem countOf_bump (categories : List (Json × Nat)) (met name : String) :
    countOf (bump categories (.str met)) name =
      countOf categories name + if met = name then 1 else 0 := by
  induction categories with
  | nil =>
    by_cases same : met = name
    · simp [bump, countOf, sameKey, same]
    · simp [bump, countOf, sameKey, same]
  | cons entry rest ih =>
    obtain ⟨other, count⟩ := entry
    unfold countOf at ih ⊢
    rw [bump]
    by_cases key : sameKey other (.str met) = true
    · have is : other = .str met := by
        cases other <;> simp_all [sameKey, Json.number?]
      subst is
      rw [if_pos key]
      by_cases same : met = name
      · simp [sameKey, same]
      · simp [sameKey, same]
    · rw [if_neg key]
      by_cases wanted : sameKey other (.str name) = true
      · have apart : met ≠ name := fun same => key (same ▸ wanted)
        simp [wanted, apart]
      · rw [List.find?_cons_of_neg (by simpa using wanted),
          List.find?_cons_of_neg (by simpa using wanted)]
        exact ih

/-- What entries tell of their calls is what is counted of them. -/
theorem tallyUp_counts {entries : List Json} {calls : List Logged}
    (tells : entries.map told = calls.map Logged.tells) (before : Tally) :
    ∃ tally, tallyUp before entries = .ok tally ∧ Counts calls before tally := by
  induction entries generalizing calls before with
  | nil =>
    cases calls with
    | nil => exact ⟨before, rfl, ⟨fun _ => rfl, rfl, rfl⟩⟩
    | cons logged rest => cases tells
  | cons entry more ih =>
    cases calls with
    | nil => cases tells
    | cons logged rest =>
      rw [List.map_cons, List.map_cons] at tells
      have ⟨first, others⟩ := List.cons.inj tells
      cases entry with
      | obj members =>
        simp only [told, toldKeys, List.map_cons, List.map_nil, Logged.tells, List.cons.injEq,
          and_true] at first
        have ⟨_, cat, _, _, _, status⟩ := first
        have category : Dict.getD members "cat" (.str "unknown") =
            .str logged.call.category.value := by
          rw [Dict.getD, cat, Option.getD_some]
        rw [tallyUp, category, status]
        obtain ⟨tally, counted, counts⟩ := ih others _
        refine ⟨tally, counted, ?_, ?_, ?_⟩
        · intro other
          rw [counts.categories, countOf_bump, List.countP_cons]
          simp only [ActionCategory.value_inj, decide_eq_true_eq]
          omega
        · rw [counts.errors, List.countP_cons]
          have same : isFine (some (.str logged.call.status)) = fineStatus logged.call.status := rfl
          dsimp only
          rw [same]
          cases fineStatus logged.call.status with
          | false =>
            simp only [Bool.not_false, if_true, Bool.false_eq_true, if_false]
            omega
          | true => simp
        · rw [counts.crashes, List.countP_cons]
          have crash : ExportFilter.holds members "cat" "crash" =
              decide (logged.call.category = .crash) := by
            have is : equalsStr (.str logged.call.category.value) "crash" =
                decide (logged.call.category.value = ActionCategory.crash.value) := rfl
            rw [ExportFilter.holds, cat, Option.map_some, Option.getD_some, is]
            exact decide_eq_decide.mpr ActionCategory.value_inj
          rw [crash]
          simp only [decide_eq_true_eq]
          omega
      | _ => simp [told, Logged.tells] at first

/-- After every run of calls, rotations and restarts `summary` counts the calls whose entries are
exported: how many there are, how many of each category, how many of a status that is an error and how
many crashes. -/
theorem summary_after_run {library : LedgerLibrary} {maxEntries : Nat} {positive : 0 < maxEntries}
    {events : List LedgerEvent} {final : LedgerState}
    (ran : Machine.run (ledgerStep library) (LedgerState.start maxEntries positive) events =
      some final) (listing : Listing final.dir) (lastN : Int) (today : Date) :
    ∃ tally, Counts (lastItems lastN (selected events {} (listing.days.take 2))) {} tally ∧
      ledgerSummary library listing lastN today =
        (verifyChain library final.dir today).map fun chainValid =>
          { totalEntries := (lastItems lastN (selected events {} (listing.days.take 2))).length
            tally
            chainValid } := by
  obtain ⟨exported, done, tells⟩ := exportEntries_tells ran listing lastN {}
  have lengths := congrArg List.length tells
  rw [List.length_map, List.length_map] at lengths
  obtain ⟨tally, counted, counts⟩ := tallyUp_counts tells {}
  refine ⟨tally, counts, ?_⟩
  unfold ledgerSummary
  rw [done]
  show (tallyUp {} exported >>= _) = _
  rw [counted]
  show (verifyChain library final.dir today >>= _) = _
  rw [lengths]
  cases verifyChain library final.dir today with
  | error exception => rfl
  | ok chainValid => rfl

/-- The summary of two calls on two days. -/
theorem summary_after_run_twoDays :
    ∃ tally, Counts (lastItems 1000 (selected twoDayEvents {} (twoDayListing.days.take 2))) {} tally ∧
      ledgerSummary sampleLibrary twoDayListing 1000 nextSampleDay =
        (verifyChain sampleLibrary twoDayState.dir nextSampleDay).map fun chainValid =>
          { totalEntries := (lastItems 1000 (selected twoDayEvents {}
              (twoDayListing.days.take 2))).length
            tally
            chainValid } :=
  summary_after_run run_twoDayEvents twoDayListing 1000 nextSampleDay

end VelaFlow.Security
