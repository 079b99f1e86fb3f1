import VelaFlow.Api.UserAdministration

/-!
# Who holds a role

The records of users and the invites say who holds a role and who is offered one. Each routine of
the login and of the administration changes little of that, and what it changes is collected here:
which records it can raise to a role, and which invites it can make for one.
-/
namespace VelaFlow.Api

open Process Storage Tenants
open Program (Only)

/-- `_generate_user_id`, with the token it draws. -/
def newUserId (token : HexToken) : String := "usr_" ++ token.text

/-- A record among the users that holds a role. -/
def Holds (world : World) (path : Path) (role : UserRole) : Prop :=
  ∃ user, UserAt world path user ∧ user.userRole = role

/-- An invite that offers a role, used or not. -/
def Offers (world : World) (path : Path) (role : UserRole) : Prop :=
  InDirectory "invites" path ∧ ∃ data, world.storage.lookup path = some data ∧
    fieldD asStr data "role" "member" = .ok role.value

/-- A document that names the users of Google accounts. -/
def IsIndex (path : Path) (data : Dict) : Prop :=
  resolve indexKey = .ok path ∧
    ∀ key value, data.get? key = some value → ∃ token, value = .str (newUserId token)

/-- A document that is the record of a user, at the user's own key. -/
def IsRecord (path : Path) (data : Dict) : Prop :=
  ∃ (token : HexToken) (user : User), user.userId = newUserId token ∧
    resolve (userKey user.userId) = .ok path ∧ data = user.toDict

/-- Every document among the users is the index or the record of a user. -/
def Registry (world : World) : Prop :=
  ∀ path data, InDirectory "users" path → world.storage.lookup path = some data →
    IsIndex path data ∨ IsRecord path data

section Decoding

/-- A user is decoded with the identifier and the role of its record. -/
theorem fromDict_fields {recorded : DateTime} {data : Dict} {user : User}
    (read : User.fromDict recorded data = .ok user) :
    data.get? "user_id" = some (.str user.userId) ∧
      ∃ value, fieldD asStr data "user_role" "member" = .ok value ∧
        readUserRole value = .ok user.userRole := by
  unfold User.fromDict at read
  simp only [bind_ok_iff] at read
  rcases read with ⟨userId, hasId, tenantId, -, googleSub, -, email, -, name, -, pictureUrl, -,
    value, hasValue, role, hasRole, isActive, -, created, -, last, -, count, -, built⟩
  obtain rfl := Except.ok.inj built
  refine ⟨?_, value, hasValue, hasRole⟩
  unfold field at hasId
  cases stored : data.get? "user_id" with
  | none =>
    rw [stored] at hasId
    cases hasId
  | some json =>
    rw [stored] at hasId
    cases json with
    | str text =>
      obtain rfl := Except.ok.inj hasId
      rfl
    | _ => cases hasId

/-- A role is read from its own value only. -/
theorem readUserRole_eq {value : String} {role : UserRole} (read : readUserRole value = .ok role) :
    value = role.value := by
  unfold readUserRole at read
  cases known : UserRole.ofValue? value with
  | none =>
    rw [known] at read
    cases read
  | some other =>
    rw [known] at read
    obtain rfl := Except.ok.inj read
    unfold UserRole.ofValue? at known
    split at known <;> cases known <;> rfl

/-- An identifier that the platform makes is not the value of a role. -/
theorem newUserId_ne_value (token : HexToken) (role : UserRole) :
    newUserId token ≠ role.value := by
  intro same
  have sizes := congrArg String.length same
  unfold newUserId at sizes
  rw [String.length_append, token.length] at sizes
  cases role <;> exact absurd sizes (by decide)

/-- The default role is not an elevated one. -/
theorem value_ne_member {role : UserRole} (elevated : role.elevated = true) :
    "member" ≠ role.value := by
  cases role <;> first | decide | cases elevated

end Decoding

section Paths

/-- Users of different tokens have different identifiers. -/
theorem newUserId_ne {first second : HexToken} (apart : first.text ≠ second.text) :
    newUserId first ≠ newUserId second := by
  intro same
  have texts := congrArg String.toList same
  unfold newUserId at texts
  rw [String.toList_append, String.toList_append] at texts
  exact apart (String.toList_injective (List.append_cancel_left texts))

/-- Users of different tokens have records of their own. -/
theorem newUser_path_ne {first second : HexToken} (apart : first.text ≠ second.text)
    {path other : Path} (resolved : resolve (userKey (newUserId first)) = .ok path)
    (otherResolved : resolve (userKey (newUserId second)) = .ok other) : path ≠ other :=
  userKey_path_ne (isPart_newUser first) (isPart_newUser second) (newUserId_ne apart) resolved
    otherResolved

/-- The record of a user that the platform made is not the index. -/
theorem newUser_path_ne_index {token : HexToken} {path index : Path}
    (resolved : resolve (userKey (newUserId token)) = .ok path)
    (indexed : resolve indexKey = .ok index) : path ≠ index :=
  path_ne_index (isPart_newUser token) (by simp) resolved indexed

end Paths

namespace Registry

variable {world : World} {path : Path} {user : User}

/-- Every user of a registry has an identifier that the platform made. -/
theorem token_of_userAt (registry : Registry world) (at_ : UserAt world path user) :
    ∃ token, user.userId = newUserId token := by
  rcases at_ with ⟨inside, data, recorded, found, read⟩
  rcases registry path data inside found with ⟨-, ids⟩ | ⟨token, own, named, -, rfl⟩
  · rcases ids _ _ (fromDict_fields read).1 with ⟨token, same⟩
    exact ⟨token, Json.str.inj same⟩
  · rw [User.fromDict_toDict] at read
    exact ⟨token, Except.ok.inj read ▸ named⟩

/-- A user of a registry with an elevated role lies at its own key, as it was saved. -/
theorem record_of_userAt (registry : Registry world) (at_ : UserAt world path user)
    (elevated : user.userRole.elevated = true) :
    resolve (userKey user.userId) = .ok path ∧ world.storage.lookup path = some user.toDict := by
  rcases at_ with ⟨inside, data, recorded, found, read⟩
  rcases registry path data inside found with ⟨-, ids⟩ | ⟨token, own, -, resolved, rfl⟩
  · rcases (fromDict_fields read).2 with ⟨value, stored, role⟩
    have same := readUserRole_eq role
    unfold fieldD at stored
    cases given : data.get? "user_role" with
    | none =>
      rw [given] at stored
      rw [← Except.ok.inj stored] at same
      exact absurd same (value_ne_member elevated)
    | some json =>
      rcases ids _ _ given with ⟨token, rfl⟩
      rw [given] at stored
      have name : newUserId token = value := Except.ok.inj stored
      exact absurd (name.trans same) (newUserId_ne_value token _)
  · rw [User.fromDict_toDict] at read
    obtain rfl := Except.ok.inj read
    exact ⟨resolved, found⟩

/-- A user that is found under an identifier lies among the users. -/
theorem userAt_of_storedUser {recorded : DateTime} {userId : String}
    (stored : storedUser recorded world userId = .ok (some user)) :
    ∃ path, resolve (userKey userId) = .ok path ∧ UserAt world path user := by
  unfold storedUser LocalStorage.readJson at stored
  cases resolved : resolve (userKey userId) with
  | error exception =>
    rw [resolved] at stored
    cases stored
  | ok path =>
    rw [resolved] at stored
    simp only [Except.map] at stored
    cases found : world.storage.lookup path with
    | none =>
      rw [found] at stored
      cases stored
    | some data =>
      rw [found] at stored
      cases read : User.fromDict recorded data with
      | error exception =>
        simp only [read] at stored
        cases stored
      | ok one =>
        simp only [read] at stored
        obtain rfl := Option.some.inj (Except.ok.inj stored)
        exact ⟨path, rfl, inDirectory_userKey resolved, data, recorded, found, read⟩

end Registry

/-- What a step may change of the roles: a record may be raised to an elevated role only as the
first relation says, and an invite made for one only as the second says. The registry stays one. -/
structure Grants (before after : World) (gives makes : Path → UserRole → Prop) : Prop where
  /-- The registry stays one. -/
  registry : Registry before → Registry after
  /-- Who holds an elevated role held it, or was given it. -/
  holders : Registry before → ∀ path role, role.elevated = true → Holds after path role →
    Holds before path role ∨ gives path role
  /-- What offers an elevated role offered it, or was made to. -/
  offers : ∀ path role, role.elevated = true → Offers after path role →
    Offers before path role ∨ makes path role

namespace Grants

variable {before middle after : World} {gives makes : Path → UserRole → Prop}

/-- No step changes nothing. -/
theorem refl (world : World) : Grants world world gives makes where
  registry := id
  holders := fun _ _ _ _ holds => Or.inl holds
  offers := fun _ _ _ offer => Or.inl offer

/-- Steps follow each other. -/
theorem trans (first : Grants before middle gives makes) (second : Grants middle after gives makes) :
    Grants before after gives makes where
  registry := fun registry => second.registry (first.registry registry)
  holders := by
    intro registry path role elevated holds
    rcases second.holders (first.registry registry) path role elevated holds with held | given
    · exact first.holders registry path role elevated held
    · exact Or.inr given
  offers := by
    intro path role elevated offer
    rcases second.offers path role elevated offer with offered | made
    · exact first.offers path role elevated offered
    · exact Or.inr made

/-- More may be given. -/
theorem mono {more others : Path → UserRole → Prop} (step : Grants before after gives makes)
    (given : ∀ path role, role.elevated = true → gives path role → more path role)
    (made : ∀ path role, role.elevated = true → makes path role → others path role) :
    Grants before after more others where
  registry := step.registry
  holders := fun registry path role elevated holds =>
    (step.holders registry path role elevated holds).imp_right (given path role elevated)
  offers := fun path role elevated offer =>
    (step.offers path role elevated offer).imp_right (made path role elevated)

/-- Giving a role to who holds it is giving nothing. -/
theorem absorb (step : Grants before after (fun path role => Holds before path role ∨ gives path role)
    makes) : Grants before after gives makes where
  registry := step.registry
  holders := by
    intro registry path role elevated holds
    rcases step.holders registry path role elevated holds with held | held | given
    · exact Or.inl held
    · exact Or.inl held
    · exact Or.inr given
  offers := step.offers

/-- A step that leaves users and invites alone changes no roles. -/
theorem of_elsewhere
    (users : ∀ path, InDirectory "users" path →
      after.storage.lookup path = before.storage.lookup path)
    (invites : ∀ path, InDirectory "invites" path →
      after.storage.lookup path = before.storage.lookup path) :
    Grants before after gives makes where
  registry := by
    intro registry path data inside found
    rw [users path inside] at found
    exact registry path data inside found
  holders := by
    rintro - path role - ⟨user, ⟨inside, data, recorded, found, read⟩, held⟩
    rw [users path inside] at found
    exact Or.inl ⟨user, ⟨inside, data, recorded, found, read⟩, held⟩
  offers := by
    rintro path role - ⟨inside, data, found, offered⟩
    rw [invites path inside] at found
    exact Or.inl ⟨inside, data, found, offered⟩

/-- A step that writes neither users nor invites changes no roles. -/
theorem of_writesIn {α : Type} {routine : Routine α} {directories : List String}
    (writes : Only (Action.WritesIn directories) routine) (users : "users" ∉ directories)
    (invites : "invites" ∉ directories) (answers : Answers) (world : World) :
    Grants world (routine.run answers world).2 gives makes := by
  have elsewhere : ∀ name, name ∉ directories → ∀ path, InDirectory name path →
      (routine.run answers world).2.storage.lookup path = world.storage.lookup path := by
    intro name absent path inside
    apply lookup_of_writesIn writes
    intro directory known within
    rw [within.eq inside] at known
    exact absent known
  exact of_elsewhere (elsewhere "users" users) (elsewhere "invites" invites)

/-- Saving a user gives it its role. -/
theorem of_user {user : User} {token : HexToken} {path : Path}
    (named : user.userId = newUserId token) (resolved : resolve (userKey user.userId) = .ok path)
    (saved : after.storage = before.storage.put path user.toDict)
    (given : user.userRole.elevated = true → gives path user.userRole) :
    Grants before after gives makes where
  registry := by
    intro registry other data inside found
    rw [saved] at found
    by_cases same : other = path
    · rw [same, LocalStorage.lookup_put_self] at found
      exact Or.inr ⟨token, user, named, same ▸ resolved, (Option.some.inj found).symm⟩
    · rw [LocalStorage.lookup_put_ne _ _ same] at found
      exact registry other data inside found
  holders := by
    rintro - other role elevated ⟨holder, ⟨inside, data, recorded, found, read⟩, rfl⟩
    rw [saved] at found
    by_cases same : other = path
    · rw [same, LocalStorage.lookup_put_self] at found
      rw [← Option.some.inj found, User.fromDict_toDict] at read
      obtain rfl := Except.ok.inj read
      exact Or.inr (same ▸ given elevated)
    · rw [LocalStorage.lookup_put_ne _ _ same] at found
      exact Or.inl ⟨holder, ⟨inside, data, recorded, found, read⟩, rfl⟩
  offers := by
    rintro other role - ⟨inside, data, found, offered⟩
    have apart : other ≠ path := by
      intro same
      have users := inDirectory_userKey resolved
      exact absurd (inside.eq (same ▸ users)) (by decide)
    rw [saved, LocalStorage.lookup_put_ne _ _ apart] at found
    exact Or.inl ⟨inside, data, found, offered⟩

/-- Naming a user in the index changes no roles. -/
theorem of_index {googleSub : String} {token : HexToken} {index : Path}
    (indexed : resolve indexKey = .ok index)
    (saved : after.storage = before.storage.put index
      (((before.storage.lookup index).getD []).set googleSub (.str (newUserId token)))) :
    Grants before after gives makes := by
  have inUsers := inDirectory_indexKey indexed
  have kept : Registry before → Registry after := by
    intro registry other data inside found
    rw [saved] at found
    by_cases same : other = index
    · rw [same, LocalStorage.lookup_put_self] at found
      refine Or.inl ⟨same ▸ indexed, ?_⟩
      intro key value given
      rw [← Option.some.inj found] at given
      by_cases here : key = googleSub
      · rw [here, Dict.get?_set_self] at given
        exact ⟨token, (Option.some.inj given).symm⟩
      · rw [Dict.get?_set_ne _ _ here] at given
        cases old : before.storage.lookup index with
        | none =>
          rw [old] at given
          cases given
        | some data =>
          rw [old] at given
          rcases registry index data inUsers old with ⟨-, ids⟩ | ⟨other, user, name, at_, -⟩
          · exact ids key value given
          · rw [name] at at_
            exact absurd rfl (newUser_path_ne_index at_ indexed)
    · rw [LocalStorage.lookup_put_ne _ _ same] at found
      exact registry other data inside found
  constructor
  · exact kept
  · rintro registry other role elevated ⟨holder, at_, rfl⟩
    have apart : other ≠ index := by
      rcases (kept registry).token_of_userAt at_ with ⟨token, name⟩
      have resolved := ((kept registry).record_of_userAt at_ elevated).1
      rw [name] at resolved
      exact newUser_path_ne_index resolved indexed
    rcases at_ with ⟨inside, data, recorded, found, read⟩
    rw [saved, LocalStorage.lookup_put_ne _ _ apart] at found
    exact Or.inl ⟨holder, ⟨inside, data, recorded, found, read⟩, rfl⟩
  · rintro other role - ⟨inside, data, found, offered⟩
    have apart : other ≠ index := by
      intro same
      exact absurd (inside.eq (same ▸ inUsers)) (by decide)
    rw [saved, LocalStorage.lookup_put_ne _ _ apart] at found
    exact Or.inl ⟨inside, data, found, offered⟩

/-- Writing an invite makes it offer its role. -/
theorem of_invite {path : Path} {data : Dict} (inside : InDirectory "invites" path)
    (saved : after.storage = before.storage.put path data)
    (made : ∀ role, role.elevated = true → fieldD asStr data "role" "member" = .ok role.value →
      Offers before path role ∨ makes path role) : Grants before after gives makes := by
  have users : ∀ other, InDirectory "users" other →
      after.storage.lookup other = before.storage.lookup other := by
    intro other within
    have apart : other ≠ path := by
      intro same
      exact absurd (within.eq (same ▸ inside)) (by decide)
    rw [saved, LocalStorage.lookup_put_ne _ _ apart]
  constructor
  · intro registry other found within stored
    rw [users other within] at stored
    exact registry other found within stored
  · rintro - other role - ⟨user, ⟨within, found, recorded, stored, read⟩, held⟩
    rw [users other within] at stored
    exact Or.inl ⟨user, ⟨within, found, recorded, stored, read⟩, held⟩
  · rintro other role elevated ⟨within, found, stored, offered⟩
    rw [saved] at stored
    by_cases same : other = path
    · rw [same, LocalStorage.lookup_put_self] at stored
      rw [← Option.some.inj stored] at offered
      rw [same]
      exact made role elevated offered
    · rw [LocalStorage.lookup_put_ne _ _ same] at stored
      exact Or.inl ⟨within, found, stored, offered⟩

/-- A sequence changes what its parts change. -/
theorem bind {α β : Type} {routine : Routine α} {rest : α → Routine β} {answers : Answers}
    {world : World} (first : Grants world (routine.run answers world).2 gives makes)
    (then_ : ∀ value left, routine.run answers world = (.ok value, left) →
      Grants left ((rest value).run answers left).2 gives makes) :
    Grants world ((routine >>= rest).run answers world).2 gives makes := by
  rw [run_bind]
  cases ran : routine.run answers world with
  | mk outcome left =>
    rw [ran] at first
    cases outcome with
    | error exception => exact first
    | ok value => exact first.trans (then_ value left ran)

end Grants

end VelaFlow.Api
