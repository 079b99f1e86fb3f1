import VelaFlow.Foundation.Machine
import VelaFlow.Security.BanEscalation

/-!
# Permanent bans

A ban for ever is a flag of the record of its key and an entry of the map that is saved. The entry
is what counts: it is there whenever the flag is set, and a new manager reads it back from the
file. So a key is banned for ever exactly from a permanent ban or an escalation to the highest
stage on, until it is removed.
-/
namespace VelaFlow.Security

/-- What happens to the ban manager of a path whose file can be written. -/
inductive BanLife where
  /-- A method is called. -/
  | call (call : BanCall) (now : ℚ≥0)
  /-- A new manager is made on the same path. -/
  | restart

namespace BanManager

/-- The manager after such an event. -/
def live (manager : BanManager) : BanLife → BanManager
  | .call call now => BanEvent.perform manager { call, now }
  | .restart => manager.restart

/-- The manager after events from the first start on, when the highest stage bans for ever. -/
def lived (events : List BanLife) : BanManager := events.foldl live (new true true none)

/-- A failure escalates its key to the highest stage. -/
def EscalatesTo (manager : BanManager) (key : String) (event : BanLife) : Prop :=
  (∃ now, event = .call (.recordFailure key) now) ∧
    ((manager.records key).getD {}).stage ≠ .hard ∧
      (((manager.live event).records key).getD {}).stage = .hard

/-- An event bans a key for ever. -/
def BansForEver (before : List BanLife) (key : String) (event : BanLife) : Prop :=
  (∃ reason now, event = .call (.banPermanent key reason) now) ∨
    (lived before).EscalatesTo key event

/-- A key was banned for ever, and not removed since. -/
def PermanentSince (events : List BanLife) (key : String) : Prop :=
  ∃ before event after, events = before ++ event :: after ∧ BansForEver before key event ∧
    ∀ later ∈ after, ¬ ∃ now, later = .call (.unban key) now

/-- A key is in the map that the file holds. -/
def inFile (manager : BanManager) (key : String) : Bool :=
  match manager.file with
  | some (.obj data) => (Dict.get? data key).isSome
  | _ => false

/-- What is kept of a manager between events. -/
structure Kept (manager : BanManager) : Prop where
  /-- The highest stage bans for ever. -/
  forEver : manager.permanentStage3 = true
  /-- The bans are saved. -/
  persists : manager.persists = true
  /-- A key whose record bans for ever is in the map. -/
  listed : ∀ key record, manager.records key = some record → record.isPermanent = true →
    (manager.permanentBans.get? key).isSome = true
  /-- The file has the keys of the map. -/
  saved : ∀ key, manager.inFile key = (manager.permanentBans.get? key).isSome

variable {manager : BanManager} {key other : String} {now : ℚ}

/-- Other records are as good when those that ban for ever are in the map. -/
theorem Kept.withRecords (kept : manager.Kept) {records : String → Option BanRecord}
    (listed : ∀ key record, records key = some record → record.isPermanent = true →
      (manager.permanentBans.get? key).isSome = true) :
    Kept { manager with records } :=
  ⟨kept.forEver, kept.persists, listed, kept.saved⟩

/-- What is saved is in the file. -/
theorem kept_savePersistentBans (forEver : manager.permanentStage3 = true)
    (persists : manager.persists = true)
    (listed : ∀ key record, manager.records key = some record → record.isPermanent = true →
      (manager.permanentBans.get? key).isSome = true) :
    Kept (savePersistentBans true manager) := by
  have is : savePersistentBans true manager =
      { manager with file := some (.obj manager.permanentBans) } := by
    unfold savePersistentBans
    rw [persists]
    rfl
  rw [is]
  exact ⟨forEver, persists, listed, fun key => rfl⟩

/-- A failure keeps it. -/
theorem kept_recordFailure (kept : manager.Kept) : (manager.recordFailure other now true).Kept := by
  have failed : (manager.failed other now).isPermanent = true →
      (manager.permanentBans.get? other).isSome = true := by
    intro forever
    cases found : manager.records other with
    | none =>
      unfold BanManager.failed at forever
      rw [found] at forever
      cases forever
    | some record =>
      unfold BanManager.failed at forever
      rw [found] at forever
      exact kept.listed other record found forever
  have updated : ∀ {bans : Dict} {record : BanRecord},
      (∀ key, (manager.permanentBans.get? key).isSome = true → (bans.get? key).isSome = true) →
      (record.isPermanent = true → (bans.get? other).isSome = true) →
      ∀ key kind, Function.update manager.records other (some record) key = some kind →
        kind.isPermanent = true → (bans.get? key).isSome = true := by
    intro bans record grows fits key kind recorded forever
    by_cases same : key = other
    · subst same
      rw [Function.update_self] at recorded
      cases recorded
      exact fits forever
    · rw [Function.update_of_ne same] at recorded
      exact grows key (kept.listed key kind recorded forever)
  by_cases raised : ∃ rule ∈ escalationRules, Raises (manager.failed other now) now rule
  · obtain ⟨rule, inside, raises⟩ := raised
    obtain ⟨highest, -, -, -, is⟩ := @recordFailure_of_raises manager other now true rule inside raises
    rw [is]
    unfold raise
    by_cases hard : highest.stage = .hard ∧ manager.permanentStage3 = true
    · rw [if_pos hard]
      have saved : Kept (savePersistentBans true { manager with
          permanentBans := manager.permanentBans.set other (.str "Stage 3 auto-escalation") }) :=
        kept_savePersistentBans kept.forEver kept.persists fun key record recorded forever =>
          isSome_get?_set (kept.listed key record recorded forever)
      apply saved.withRecords
      rw [savePersistentBans_permanentBans]
      apply updated (fun key => isSome_get?_set)
      intro _
      rw [Dict.get?_set_self]
      rfl
    · rw [if_neg hard]
      exact kept.withRecords (updated (fun key => id) failed)
  · have quiet : ∀ rule ∈ escalationRules, ¬ Raises (manager.failed other now) now rule :=
      fun rule inside raises => raised ⟨rule, inside, raises⟩
    rw [recordFailure_of_not_raises quiet]
    exact kept.withRecords (updated (fun key => id) failed)

/-- A success keeps it. -/
theorem kept_recordSuccess (kept : manager.Kept) : (manager.recordSuccess other).Kept := by
  unfold recordSuccess
  split
  · split
    · exact kept
    · apply kept.withRecords
      intro key record recorded forever
      by_cases same : key = other
      · rw [same, Function.update_self] at recorded
        cases recorded
      · rw [Function.update_of_ne same] at recorded
        exact kept.listed key record recorded forever
  · exact kept

/-- A permanent ban keeps it. -/
theorem kept_banPermanent (kept : manager.Kept) (reason : String) :
    (manager.banPermanent other reason true).Kept :=
  kept_savePersistentBans kept.forEver kept.persists fun key record recorded forever =>
    isSome_get?_set (kept.listed key record recorded forever)

/-- A removal keeps it. -/
theorem kept_unban (kept : manager.Kept) : (manager.unban other true).2.Kept := by
  have rest : ∀ removed : Bool × BanManager, removed.2.permanentStage3 = true →
      removed.2.persists = true →
      (∀ key, removed.2.inFile key = (removed.2.permanentBans.get? key).isSome) →
      let after := (if (removed.2.records other).isSome = true then
          (true, { removed.2 with records := Function.update removed.2.records other none })
        else removed).2
      after.permanentStage3 = true ∧ after.persists = true ∧
        ∀ key, after.inFile key = (after.permanentBans.get? key).isSome := by
    intro removed forEver persists saved
    by_cases recorded : (removed.2.records other).isSome = true
    · rw [if_pos recorded]
      exact ⟨forEver, persists, saved⟩
    · rw [if_neg recorded]
      exact ⟨forEver, persists, saved⟩
  have configured : (manager.unban other true).2.permanentStage3 = true ∧
      (manager.unban other true).2.persists = true ∧ ∀ key, (manager.unban other true).2.inFile key =
        ((manager.unban other true).2.permanentBans.get? key).isSome := by
    unfold unban
    by_cases listed : (manager.permanentBans.get? other).isSome = true
    · rw [if_pos listed]
      have is : savePersistentBans true { manager with
          permanentBans := without manager.permanentBans other } =
          { manager with
            permanentBans := without manager.permanentBans other
            file := some (.obj (without manager.permanentBans other)) } := by
        unfold savePersistentBans
        rw [kept.persists]
        rfl
      rw [is]
      exact rest (true, _) kept.forEver kept.persists fun key => rfl
    · rw [if_neg listed]
      exact rest (false, manager) kept.forEver kept.persists kept.saved
  refine ⟨configured.1, configured.2.1, ?_, configured.2.2⟩
  intro key record recorded forever
  rw [unban_records] at recorded
  rw [unban_permanentBans]
  by_cases same : key = other
  · rw [if_pos same] at recorded
    cases recorded
  · rw [if_neg same] at recorded ⊢
    exact kept.listed key record recorded forever

/-- The keys of a dictionary that another was written over. -/
theorem isSome_get?_update (data bans : Dict) :
    ((data.foldl (fun bans pair => bans.set pair.1 pair.2) bans).get? key).isSome =
      ((bans.get? key).isSome || (data.get? key).isSome) := by
  induction data generalizing bans with
  | nil => simp
  | cons pair rest ih =>
    obtain ⟨first, value⟩ := pair
    rw [List.foldl_cons, ih]
    by_cases same : key = first
    · simp [same, Dict.get?_set_self]
    · simp [Dict.get?_set_ne _ _ same, Ne.symm same]

/-- A new manager has the permanent bans of the file. -/
theorem kept_new (file : Option Json) : (new true true file).Kept := by
  have empty : ∀ other : Option Json, (∀ data, other ≠ some (.obj data)) →
      Kept { permanentStage3 := true, persists := true, file := other } := by
    intro other unread
    refine ⟨rfl, rfl, fun key record recorded => ?_, fun key => ?_⟩
    · cases recorded
    · unfold inFile
      split
      · next data held => exact absurd held (unread data)
      · rfl
  cases file with
  | none => exact empty none fun data held => by cases held
  | some document =>
    cases document with
    | obj data =>
      refine ⟨rfl, rfl, fun key record recorded => ?_, fun key => ?_⟩
      · cases recorded
      · exact (isSome_get?_update data []).symm
    | null => exact empty _ fun data held => by cases held
    | bool value => exact empty _ fun data held => by cases held
    | int value => exact empty _ fun data held => by cases held
    | float value => exact empty _ fun data held => by cases held
    | str value => exact empty _ fun data held => by cases held
    | arr items => exact empty _ fun data held => by cases held

/-- A restart keeps it. -/
theorem kept_restart (kept : manager.Kept) : manager.restart.Kept := by
  unfold restart
  rw [kept.forEver, kept.persists]
  exact kept_new manager.file

/-- What is kept is kept by every event. -/
theorem kept_live (kept : manager.Kept) (event : BanLife) : (manager.live event).Kept := by
  cases event with
  | restart => exact kept_restart kept
  | call call now =>
    cases call with
    | isBanned other => exact kept
    | getBanRemaining other => exact kept
    | listBans => exact kept
    | recordFailure other => exact kept_recordFailure kept
    | recordSuccess other => exact kept_recordSuccess kept
    | banPermanent other reason => exact kept_banPermanent kept reason
    | unban other => exact kept_unban kept

/-- What is kept holds after all events. -/
theorem kept_lived (events : List BanLife) : (lived events).Kept := by
  induction events using List.reverseRecOn with
  | nil => exact kept_new none
  | append_singleton before event ih =>
    unfold lived at ih ⊢
    rw [List.foldl_append]
    exact kept_live ih event

/-- The file of a new manager stays as it is. -/
theorem inFile_new (file : Option Json) : (new true true file).inFile key =
    match file with
    | some (.obj data) => (Dict.get? data key).isSome
    | _ => false := by
  unfold new loadPersistentBans
  split <;> rfl

/-- A failure puts its key into the map exactly when it escalates it to the highest stage. -/
theorem isSome_permanentBans_recordFailure_iff (kept : manager.Kept) (now : ℚ≥0) :
    ((manager.recordFailure other now true).permanentBans.get? key).isSome = true ↔
      manager.EscalatesTo key (.call (.recordFailure other) now) ∨
        (manager.permanentBans.get? key).isSome = true := by
  have escalates : manager.EscalatesTo key (.call (.recordFailure other) now) ↔ key = other ∧
      ((manager.records key).getD {}).stage ≠ .hard ∧
        (((manager.recordFailure other now true).records key).getD {}).stage = .hard := by
    constructor
    · rintro ⟨⟨time, is⟩, before, after⟩
      cases is
      exact ⟨rfl, before, after⟩
    · rintro ⟨rfl, before, after⟩
      exact ⟨⟨now, rfl⟩, before, after⟩
  rw [escalates]
  by_cases raised : ∃ rule ∈ escalationRules, Raises (manager.failed other now) now rule
  · obtain ⟨rule, inside, raises⟩ := raised
    obtain ⟨highest, -, above, -, is⟩ :=
      @recordFailure_of_raises manager other now true rule inside raises
    have below : ((manager.records other).getD {}).stage ≠ .hard := by
      intro top
      have least : ((manager.records other).getD {}).stage.value < highest.stage.value := above.1
      rw [top] at least
      cases stage : highest.stage <;> rw [stage] at least <;> simp [BanStage.value] at least
    have bans : (manager.recordFailure other now true).permanentBans =
        if highest.stage = .hard ∧ manager.permanentStage3 = true then
          manager.permanentBans.set other (.str "Stage 3 auto-escalation")
        else manager.permanentBans := by
      rw [is]
      exact raise_permanentBans highest
    have stage : (((manager.recordFailure other now true).records other).getD {}).stage =
        highest.stage := by
      rw [is]
      show ((Function.update manager.records other _ other).getD {}).stage = _
      rw [Function.update_self]
      exact raise_stage highest
    rw [bans]
    by_cases hard : highest.stage = .hard
    · rw [if_pos ⟨hard, kept.forEver⟩]
      by_cases same : key = other
      · subst same
        rw [Dict.get?_set_self, stage]
        exact ⟨fun _ => Or.inl ⟨rfl, below, hard⟩, fun _ => rfl⟩
      · rw [Dict.get?_set_ne _ _ same]
        exact ⟨Or.inr, fun either => either.resolve_left fun both => same both.1⟩
    · rw [if_neg (fun both => hard both.1)]
      refine ⟨Or.inr, fun either => either.resolve_left ?_⟩
      rintro ⟨rfl, -, after⟩
      exact hard (stage.symm.trans after)
  · have quiet : ∀ rule ∈ escalationRules, ¬ Raises (manager.failed other now) now rule :=
      fun rule inside raises => raised ⟨rule, inside, raises⟩
    rw [recordFailure_of_not_raises quiet]
    refine ⟨Or.inr, fun either => either.resolve_left ?_⟩
    rintro ⟨rfl, before, after⟩
    apply before
    rw [← after]
    show _ = ((Function.update manager.records key _ key).getD {}).stage
    rw [Function.update_self]
    rfl

/-- What one event does to the map of permanent bans. -/
theorem isSome_permanentBans_live (before : List BanLife) (event : BanLife) :
    ((lived (before ++ [event])).permanentBans.get? key).isSome = true ↔
      BansForEver before key event ∨
        ((lived before).permanentBans.get? key).isSome = true ∧
          ¬ ∃ now, event = .call (.unban key) now := by
  have kept := kept_lived before
  have after : lived (before ++ [event]) = (lived before).live event := by
    unfold lived
    rw [List.foldl_append]
    rfl
  rw [after]
  cases event with
  | restart =>
    have read : ((lived before).restart.permanentBans.get? key).isSome =
        ((lived before).permanentBans.get? key).isSome := by
      rw [← (kept_restart kept).saved key, ← kept.saved key]
      unfold restart
      rw [kept.forEver, kept.persists, inFile_new]
      rfl
    show ((lived before).restart.permanentBans.get? key).isSome = true ↔ _
    rw [read]
    simp [BansForEver, EscalatesTo]
  | call call now =>
    cases call with
    | isBanned other => simp [BansForEver, EscalatesTo, live, BanEvent.perform]
    | getBanRemaining other => simp [BansForEver, EscalatesTo, live, BanEvent.perform]
    | listBans => simp [BansForEver, EscalatesTo, live, BanEvent.perform]
    | recordFailure other =>
      refine (isSome_permanentBans_recordFailure_iff kept now).trans ?_
      simp [BansForEver]
    | recordSuccess other =>
      show ((recordSuccess (lived before) other).permanentBans.get? key).isSome = true ↔ _
      rw [recordSuccess_permanentBans]
      simp [BansForEver, EscalatesTo]
    | banPermanent other reason =>
      show ((banPermanent (lived before) other reason true).permanentBans.get? key).isSome = true ↔ _
      unfold banPermanent
      rw [savePersistentBans_permanentBans]
      by_cases same : key = other
      · subst same
        simp [BansForEver, Dict.get?_set_self]
      · simp [BansForEver, EscalatesTo, Dict.get?_set_ne _ _ same, Ne.symm same]
    | unban other =>
      show ((unban (lived before) other true).2.permanentBans.get? key).isSome = true ↔ _
      rw [unban_permanentBans]
      by_cases same : key = other
      · subst same
        simp [BansForEver, EscalatesTo]
      · simp [BansForEver, EscalatesTo, same, Ne.symm same]

/-- The map of permanent bans has a key exactly when it was banned for ever and not removed. -/
theorem isSome_permanentBans_iff (events : List BanLife) (key : String) :
    ((lived events).permanentBans.get? key).isSome = true ↔ PermanentSince events key := by
  have start : ¬ ((lived []).permanentBans.get? key).isSome = true := fun listed => by
    have none : (lived []).permanentBans.get? key = none := rfl
    rw [none] at listed
    cases listed
  exact @Machine.holds_iff_set_since BanLife
    (fun events => ((lived events).permanentBans.get? key).isSome = true)
    (fun before event => BansForEver before key event)
    (fun event => ∃ now, event = .call (.unban key) now) start isSome_permanentBans_live events

/-- Whatever happens to a ban manager and its restarts: a key is banned without an end, and listed
as banned permanently, exactly when it was so banned and not removed since. -/
theorem permanent_views_iff (events : List BanLife) (key : String) (now : ℚ≥0) :
    ((lived events).isBanned key now = true ∧ (lived events).getBanRemaining key now = ⊤ ↔
        PermanentSince events key) ∧
      ((∃ reason, (lived events).listBans now key = some (.permanent reason ⊤)) ↔
        PermanentSince events key) := by
  have kept := kept_lived events
  have permanent : (lived events).IsPermanent key ↔ PermanentSince events key := by
    rw [← isSome_permanentBans_iff]
    constructor
    · rintro (listed | ⟨record, recorded, forever⟩)
      · exact listed
      · exact kept.listed key record recorded forever
    · exact Or.inl
  constructor
  · rw [← permanent]
    constructor
    · rintro ⟨-, remaining⟩
      unfold getBanRemaining at remaining
      by_cases listed : ((lived events).permanentBans.get? key).isSome = true
      · exact Or.inl listed
      · rw [if_neg listed] at remaining
        cases recorded : (lived events).records key with
        | none =>
          rw [recorded] at remaining
          exact absurd remaining WithTop.coe_ne_top
        | some record =>
          rw [recorded] at remaining
          by_cases forever : record.isPermanent = true
          · exact Or.inr ⟨record, recorded, forever⟩
          · simp only [forever] at remaining
            exact absurd remaining WithTop.coe_ne_top
    · exact fun forever =>
        ⟨isBanned_of_isPermanent forever, getBanRemaining_of_isPermanent forever⟩
  · rw [← isSome_permanentBans_iff]
    unfold listBans
    cases listed : (lived events).permanentBans.get? key with
    | some reason => simp
    | none =>
      cases (lived events).records key with
      | none => simp
      | some record =>
        simp only [Option.isSome_none, Bool.false_eq_true, iff_false]
        rintro ⟨reason, is⟩
        split at is
        · cases is
        · cases is

end BanManager

end VelaFlow.Security
