import VelaFlow.Process.Effects

/-!
# Where routines write

Every key begins with the name of a directory, so its path does. A routine that deletes nothing
and writes only in some directories leaves the documents of all others as they were.
-/
namespace VelaFlow.Process

open Storage

/-- A path lies in a directory. -/
def InDirectory (directory : String) (path : Path) : Prop :=
  path.parts.head? = some directory.toList

/-- A path lies in one directory only. -/
theorem InDirectory.eq {first second : String} {path : Path} (one : InDirectory first path)
    (two : InDirectory second path) : first = second := by
  have same : first.toList = second.toList := Option.some.inj (one.symm.trans two)
  exact String.toList_injective same

/-- A key that begins with a directory's name resolves into the directory. -/
theorem inDirectory_of_resolve {directory rest : String} (part : IsPart directory.toList)
    {path : Path} (resolved : resolve (directory ++ "/" ++ rest) = .ok path) :
    InDirectory directory path := by
  unfold InDirectory
  rw [parts_of_resolve resolved, keyParts_append_slash, keyParts_of_isPart part]
  rfl

/-- An action that neither writes nor deletes. -/
def Action.Quiet : Action → Prop
  | .writeJson _ _ | .delete _ | .execute _ _ => False
  | _ => True

/-- An action that deletes nothing and writes only in some directories. -/
def Action.WritesIn (directories : List String) : Action → Prop
  | .writeJson key _ =>
    ∀ path, resolve key = .ok path → ∃ directory ∈ directories, InDirectory directory path
  | .delete _ | .execute _ _ => False
  | _ => True

/-- An action that writes only in some directories, and may delete. -/
def Action.AddsIn (directories : List String) : Action → Prop
  | .writeJson key _ =>
    ∀ path, resolve key = .ok path → ∃ directory ∈ directories, InDirectory directory path
  | .execute _ _ => False
  | _ => True

/-- What writes only in some directories adds only there. -/
theorem Action.WritesIn.addsIn {action : Action} {directories : List String}
    (writes : action.WritesIn directories) : action.AddsIn directories := by
  cases action with
  | delete key => trivial
  | _ => exact writes

/-- A quiet action writes nowhere. -/
theorem Action.Quiet.writesIn {action : Action} (quiet : action.Quiet)
    (directories : List String) : action.WritesIn directories := by
  cases action with
  | writeJson key data => exact quiet.elim
  | _ => exact quiet

namespace World

/-- A document is written when its key resolves. -/
theorem writeJson_of_resolve (world : World) {key : String} {path : Path}
    (resolved : resolve key = .ok path) (data : Dict) :
    world.writeJson key data =
      (.ok (), { world.log (.wrote key data) with storage := world.storage.put path data }) := by
  unfold World.writeJson LocalStorage.writeJson
  rw [resolved]
  rfl

/-- A key that does not resolve is not written. -/
theorem writeJson_of_error (world : World) {key : String} {exception : PyException}
    (fails : resolve key = .error exception) (data : Dict) :
    world.writeJson key data = (.error exception, world) := by
  unfold World.writeJson LocalStorage.writeJson
  rw [fails]
  rfl

/-- A write leaves every other document. -/
theorem lookup_writeJson_ne (world : World) {key : String} {path : Path}
    (other : resolve key ≠ .ok path) (data : Dict) :
    (world.writeJson key data).2.storage.lookup path = world.storage.lookup path := by
  cases resolved : resolve key with
  | error exception => rw [writeJson_of_error world resolved]
  | ok written =>
    have apart : path ≠ written := fun same => other (same ▸ resolved)
    rw [writeJson_of_resolve world resolved]
    exact world.storage.lookup_put_ne data apart

/-- A quiet action leaves the storage alone. -/
theorem storage_respond_quiet (answers : Answers) (world : World) {action : Action}
    (quiet : action.Quiet) : (world.respond answers action).2.storage = world.storage := by
  cases action with
  | writeJson key data => exact quiet.elim
  | delete key => exact quiet.elim
  | execute tenant inputs => exact quiet.elim
  | checkQuota tenantId usageType limit today =>
    rcases world.checkQuota_frame tenantId usageType limit today with ⟨dailyUsage, same⟩
    simp only [respond, same]
  | _ => rfl

/-- An action that writes only in some directories leaves the documents of all others. -/
theorem lookup_respond (answers : Answers) (world : World) {action : Action}
    {directories : List String} (writes : action.WritesIn directories) {path : Path}
    (elsewhere : ∀ directory ∈ directories, ¬ InDirectory directory path) :
    (world.respond answers action).2.storage.lookup path = world.storage.lookup path := by
  by_cases quiet : action.Quiet
  · rw [storage_respond_quiet answers world quiet]
  · cases action with
    | writeJson key data =>
      have other : resolve key ≠ .ok path := by
        intro resolved
        rcases writes path resolved with ⟨directory, known, inside⟩
        exact elsewhere directory known inside
      exact lookup_writeJson_ne world other data
    | delete key => exact writes.elim
    | execute tenant inputs => exact writes.elim
    | _ => exact absurd trivial quiet

/-- An action that adds only in some directories adds nothing elsewhere. -/
theorem lookup_respond_none (answers : Answers) (world : World) {action : Action}
    {directories : List String} (adds : action.AddsIn directories) {path : Path}
    (elsewhere : ∀ directory ∈ directories, ¬ InDirectory directory path)
    (absent : world.storage.lookup path = none) :
    (world.respond answers action).2.storage.lookup path = none := by
  by_cases deletes : ∃ key, action = .delete key
  · rcases deletes with ⟨key, rfl⟩
    simp only [respond, deleteKey, LocalStorage.delete]
    cases resolve key with
    | error exception => exact absent
    | ok removed =>
      show (world.storage.remove removed).lookup path = none
      by_cases same : path = removed
      · rw [same]
        exact world.storage.lookup_remove_self removed
      · rw [world.storage.lookup_remove_ne same]
        exact absent
  · have writes : action.WritesIn directories := by
      cases action with
      | delete key => exact absurd ⟨key, rfl⟩ deletes
      | _ => exact adds
    rw [lookup_respond answers world writes elsewhere]
    exact absent

end World

/-- A routine that is quiet leaves the storage alone. -/
theorem storage_of_quiet {α : Type} {routine : Routine α}
    (quiet : Program.Only Action.Quiet routine) (answers : Answers) (world : World) :
    (routine.run answers world).2.storage = world.storage := by
  apply Program.Only.run (fun left : World => left.storage = world.storage) _ quiet rfl
  intro action left same permitted
  exact (left.storage_respond_quiet answers permitted).trans same

/-- A routine that writes only in some directories leaves the documents of all others. -/
theorem lookup_of_writesIn {α : Type} {routine : Routine α} {directories : List String}
    (writes : Program.Only (Action.WritesIn directories) routine) {path : Path}
    (elsewhere : ∀ directory ∈ directories, ¬ InDirectory directory path) (answers : Answers)
    (world : World) :
    (routine.run answers world).2.storage.lookup path = world.storage.lookup path := by
  apply Program.Only.run (fun left : World => left.storage.lookup path = world.storage.lookup path)
    _ writes rfl
  intro action left same permitted
  exact (left.lookup_respond answers permitted elsewhere).trans same

/-- A routine that adds only in some directories adds nothing elsewhere. -/
theorem lookup_none_of_addsIn {α : Type} {routine : Routine α} {directories : List String}
    (adds : Program.Only (Action.AddsIn directories) routine) {path : Path}
    (elsewhere : ∀ directory ∈ directories, ¬ InDirectory directory path) (answers : Answers)
    {world : World} (absent : world.storage.lookup path = none) :
    (routine.run answers world).2.storage.lookup path = none := by
  apply Program.Only.run (fun left : World => left.storage.lookup path = none) _ adds absent
  intro action left none permitted
  exact left.lookup_respond_none answers permitted elsewhere none

end VelaFlow.Process
