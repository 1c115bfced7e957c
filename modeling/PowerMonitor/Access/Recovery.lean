import PowerMonitor.Access.Delegation

/-! A recovery administrator remains.

Recovery takes an active user for all sites with the five permissions of recovery. A request may take them from the last
such user where its guard looks at something else: the administrator role, the actor itself, or nothing.
-/

set_option autoImplicit false
namespace PowerMonitor.Access
open Library

section Counting
variable {book after : AccessBook} {userId : String} {user : User}

/-- A recovery administrator is there besides the user. -/
def AnotherRecovers (book : AccessBook) (userId : String) : Prop :=
  ∃ user ∈ book.users, user.id ≠ userId ∧ book.RecoveryAdministrator user

theorem count_excluding_ne_zero : book.activeRecoveryAdministratorCount userId ≠ 0 ↔ AnotherRecovers book userId := by
  rw [AccessBook.activeRecoveryAdministratorCount, ← Nat.pos_iff_ne_zero, List.length_filter_pos_iff]
  simp only [decide_eq_true_eq, ne_eq, Option.some.injEq, AnotherRecovers]

instance (book : AccessBook) (userId : String) : Decidable (AnotherRecovers book userId) :=
  inferInstanceAs (Decidable (∃ user ∈ _, _))

/-- A recovery administrator is there. -/
def Recovers (book : AccessBook) : Prop := ∃ user ∈ book.users, book.RecoveryAdministrator user

theorem count_pos : 1 ≤ book.activeRecoveryAdministratorCount ↔ Recovers book := by
  rw [AccessBook.activeRecoveryAdministratorCount, Nat.one_le_iff_ne_zero, ← Nat.pos_iff_ne_zero, List.length_filter_pos_iff]
  simp only [decide_eq_true_eq, ne_eq, reduceCtorEq, not_false_eq_true, true_and, Recovers]

/-- One of the recovery administrators is the user, or another one. -/
theorem recovers_iff (found : book.user? userId = some user) :
    Recovers book ↔ AnotherRecovers book userId ∨ book.RecoveryAdministrator user := by
  constructor
  · rintro ⟨row, listed, recovers⟩
    by_cases same : row.id = userId
    · have row_eq := user?_of_mem listed
      rw [same, found] at row_eq
      cases row_eq
      exact .inr recovers
    · exact .inl ⟨row, listed, same, recovers⟩
  · rintro (⟨row, listed, _, recovers⟩ | recovers)
    · exact ⟨row, listed, recovers⟩
    · exact ⟨user, (user?_mem found).1, recovers⟩

theorem Changes.another_iff {change : User → User} (changes : Changes book after userId change)
    (keeps : ∀ user, (change user).id = user.id) : AnotherRecovers after userId ↔ AnotherRecovers book userId := by
  obtain ⟨users, roles⟩ := changes
  have same {row : User} (other : row.id ≠ userId) : after.effectivePermissions row.id = book.effectivePermissions row.id := by
    refine effectivePermissions_congr roles ?_
    rw [user?_updated keeps users]
    cases present : book.user? row.id with
    | none => rfl
    | some old => rw [Option.map_some, if_neg (by rw [(user?_mem present).2]; exact other)]
  unfold AnotherRecovers AccessBook.RecoveryAdministrator
  rw [users]
  constructor
  · rintro ⟨row, listed, other, recovers⟩
    obtain ⟨old, stored, rfl⟩ := List.mem_map.mp listed
    by_cases changed : old.id = userId
    · rw [if_pos changed, keeps] at other
      exact absurd changed other
    · rw [if_neg changed] at other recovers
      rw [same other] at recovers
      exact ⟨old, stored, other, recovers⟩
  · rintro ⟨row, stored, other, recovers⟩
    refine ⟨row, List.mem_map.mpr ⟨row, stored, if_neg other⟩, other, ?_⟩
    rw [same other]
    exact recovers

/-- The changed user is a recovery administrator where the change leaves it what that takes. -/
theorem Changes.recovers_iff {change : User → User} (changes : Changes book after userId change)
    (keeps : ∀ user, (change user).id = user.id) (found : book.user? userId = some user) :
    Recovers after ↔ AnotherRecovers book userId ∨ ((change user).isActive = true ∧ (change user).lifecycleState = .active ∧
      (change user).allSites = true ∧ RECOVERY_PERMISSIONS ⊆ book.permissionsForRoles (book.activeRoles (change user))) := by
  have here : after.user? userId = some (change user) := by
    rw [user?_updated keeps changes.1, found, Option.map_some, if_pos (user?_mem found).2]
  rw [Access.recovers_iff here, changes.another_iff keeps, AccessBook.RecoveryAdministrator, (user?_mem here).2,
    effectivePermissions_of_user here, activeRoles_congr changes.2, permissionsForRoles_congr changes.2]

theorem recovers_congr (users : after.users = book.users)
    (effective : ∀ user ∈ book.users, after.effectivePermissions user.id = book.effectivePermissions user.id) :
    Recovers after ↔ Recovers book := by
  unfold Recovers AccessBook.RecoveryAdministrator
  rw [users]
  exact exists_congr fun user => and_congr_right fun stored => by rw [effective user stored]

/-- The table of roles grants the same under the names that users hold. -/
theorem effectivePermissions_of_same (users : after.users = book.users)
    (available : ∀ user ∈ book.users, ∀ name ∈ user.roles, after.Available name ↔ book.Available name)
    (grants : ∀ user ∈ book.users, ∀ name ∈ user.roles, book.Available name → ∀ permission,
      Grants after name permission ↔ Grants book name permission) (user : User) (stored : user ∈ book.users) :
    after.effectivePermissions user.id = book.effectivePermissions user.id := by
  have present : after.user? user.id = book.user? user.id := by rw [AccessBook.user?, users, AccessBook.user?]
  ext permission
  rw [mem_effectivePermissions, mem_effectivePermissions, present, user?_of_mem stored]
  simp only [Option.some.injEq, exists_eq_left']
  refine or_congr (and_congr_right fun held => available user stored _ held) (and_congr_left fun _ => exists_congr fun name =>
    and_congr_right fun held => ?_)
  rw [available user stored name held]
  exact and_congr_right fun current => grants user stored name held current permission

end Counting

/-! ## What the guards do not see -/

/-- An active user for all sites that recovers when the role has the given permissions. -/
def RecoversWithRole (book : AccessBook) (roleId : String) (permissions : Finset Permission) (user : User) : Prop :=
  user.isActive = true ∧ user.lifecycleState = .active ∧ user.allSites = true ∧ ("admin" ∈ book.activeRoles user ∨
    RECOVERY_PERMISSIONS ⊆ book.permissionsForRoles ((book.activeRoles user).filter fun name => name ≠ roleId) ∪
      if roleId ∈ user.roles then permissions ∪ builtinRolePermissions roleId else ∅)

instance (book : AccessBook) (roleId : String) (permissions : Finset Permission) (user : User) :
    Decidable (RecoversWithRole book roleId permissions user) := by
  unfold RecoversWithRole
  infer_instance

/-- A recovery administrator is left where no guard asks for it: by a change of access that neither takes the administrator
role nor restricts the actor, by a deactivation, and by a change of a role. -/
def RecoveryKept (book : AccessBook) (principal : SessionPrincipal) : AccessRequest → Prop
  | .updateUserAccess userId payload =>
      ("admin" ∈ book.userRoleNames userId ∧ "admin" ∉ payload.roleIds) ∨ SelfRestriction book principal userId payload ∨
        AnotherRecovers book userId ∨
        (payload.allSites = true ∧ RECOVERY_PERMISSIONS ⊆ book.permissionsForRoles payload.roleIds)
  | .deactivateUser userId => AnotherRecovers book userId
  | .updateRole roleId payload => ∃ user ∈ book.users, RecoversWithRole book roleId payload.permissions user
  | _ => True

instance (book : AccessBook) (principal : SessionPrincipal) (request : AccessRequest) :
    Decidable (RecoveryKept book principal request) := by
  unfold RecoveryKept
  rcases request with _ | _ <;> infer_instance

section Requests
variable {book after : AccessBook} {principal : SessionPrincipal}

/-- No permission of recovery is one for administrators alone. -/
theorem recovery_common {permission : Permission} (recovery : permission ∈ RECOVERY_PERMISSIONS) :
    permission ∉ ADMIN_ONLY_PERMISSIONS := by
  revert permission
  decide

theorem grants_unchanged {change : Role → Role} {roleId name : String} {permission : Permission}
    (roles : after.roles = book.roles.map fun row => if row.name = roleId then change row else row)
    (keeps : ∀ role, (change role).name = role.name) (other : name ≠ roleId) :
    Grants after name permission ↔ Grants book name permission := by
  constructor
  · intro granted
    exact (grants_changed roles keeps granted).resolve_right fun changed => other changed.1
  · rintro (⟨row, listed, rowName, unarchived, held⟩ | builtin)
    · refine .inl ⟨row, ?_, rowName, unarchived, held⟩
      rw [roles]
      exact List.mem_map.mpr ⟨row, listed, if_neg (rowName ▸ other)⟩
    · exact .inr builtin

section RoleUpdate
variable {roleId displayName : String} {payload : RoleWrite} {role : Role}

/-- The role grants its new permissions alone, the others what they did. -/
theorem grants_roleUpdated {name : String} {permission : Permission} (found : book.role? roleId = some role)
    (current : role.isArchived = false) (roles : after.roles = book.roles.map fun row =>
      if row.name = roleId then roleUpdated displayName payload.permissions row else row) :
    Grants after name permission ↔ if name = roleId then permission ∈ payload.permissions ∪ builtinRolePermissions roleId
      else Grants book name permission := by
  have stored := List.mem_of_find?_eq_some found
  have named := role?_name found
  by_cases same : name = roleId
  · rw [if_pos same, Finset.mem_union, same]
    constructor
    · intro granted
      rcases granted with ⟨row, listed, rowName, _, held⟩ | builtin
      · rw [roles] at listed
        obtain ⟨old, _, rfl⟩ := List.mem_map.mp listed
        split at held
        · exact .inl held
        · next other =>
            rw [if_neg other] at rowName
            exact absurd rowName other
      · exact .inr builtin
    · rintro (held | builtin)
      · refine .inl ⟨roleUpdated displayName payload.permissions role, ?_, named, current, held⟩
        rw [roles]
        exact List.mem_map.mpr ⟨role, stored, if_pos named⟩
      · exact .inr builtin
  · rw [if_neg same]
    exact grants_unchanged roles (fun _ => rfl) same

theorem user?_roleUpdated (users : after.users = book.users.map fun user =>
      if roleId ∈ user.roles then { user with accessRevision := user.accessRevision + 1 } else user)
    {user : User} (stored : user ∈ book.users) :
    ∃ now, after.user? user.id = some now ∧ now.roles = user.roles := by
  rw [AccessBook.user?, users, List.find?_map]
  have same : ((fun row : User => decide (row.id = user.id)) ∘ fun row : User =>
      if roleId ∈ row.roles then { row with accessRevision := row.accessRevision + 1 } else row) =
        fun row => decide (row.id = user.id) := by
    funext row
    rw [Function.comp_apply]
    split <;> rfl
  have found := user?_of_mem stored
  rw [AccessBook.user?] at found
  rw [same, found]
  refine ⟨_, rfl, ?_⟩
  dsimp only
  split <;> rfl

/-- What a permission of recovery takes after the update. -/
theorem mem_effectivePermissions_roleUpdated {permission : Permission} (recovery : permission ∈ RECOVERY_PERMISSIONS)
    (found : book.role? roleId = some role) (current : role.isArchived = false)
    (users : after.users = book.users.map fun user =>
      if roleId ∈ user.roles then { user with accessRevision := user.accessRevision + 1 } else user)
    (roles : after.roles = book.roles.map fun row =>
      if row.name = roleId then roleUpdated displayName payload.permissions row else row)
    {user : User} (stored : user ∈ book.users) (plain : "admin" ∉ book.activeRoles user) :
    permission ∈ after.effectivePermissions user.id ↔
      permission ∈ book.permissionsForRoles ((book.activeRoles user).filter fun name => name ≠ roleId) ∪
        if roleId ∈ user.roles then payload.permissions ∪ builtinRolePermissions roleId else ∅ := by
  have common := recovery_common recovery
  obtain ⟨now, listed, sameRoles⟩ := user?_roleUpdated users stored
  have available (name : String) : after.Available name ↔ book.Available name :=
    available_changed roles (fun _ => rfl) fun _ _ => rfl
  have here : book.Available roleId := ⟨role, List.mem_of_find?_eq_some found, role?_name found, current⟩
  have unfiltered : "admin" ∉ (book.activeRoles user).filter fun name => name ≠ roleId :=
    fun held => plain (List.mem_of_mem_filter held)
  rw [mem_effectivePermissions, listed, Finset.mem_union, mem_permissionsForRoles, or_iff_right unfiltered,
    and_iff_left common]
  simp only [Option.some.injEq, exists_eq_left', sameRoles, available, and_iff_left common]
  rw [or_iff_right fun held => plain (mem_activeRoles.mpr held)]
  constructor
  · rintro ⟨name, held, unarchived, granted⟩
    rw [grants_roleUpdated found current roles] at granted
    by_cases same : name = roleId
    · rw [if_pos same] at granted
      exact .inr (by rwa [if_pos (same ▸ held)])
    · rw [if_neg same] at granted
      exact .inl ⟨name, List.mem_filter.mpr ⟨mem_activeRoles.mpr ⟨held, unarchived⟩, decide_eq_true same⟩, granted⟩
  · rintro (⟨name, own, granted⟩ | given)
    · obtain ⟨listed, other⟩ := List.mem_filter.mp own
      obtain ⟨held, unarchived⟩ := mem_activeRoles.mp listed
      refine ⟨name, held, unarchived, ?_⟩
      rwa [grants_roleUpdated found current roles, if_neg (of_decide_eq_true other)]
    · split at given
      · next held =>
          refine ⟨roleId, held, here, ?_⟩
          rwa [grants_roleUpdated found current roles, if_pos rfl]
      · cases given

theorem roleUpdated_recovers (found : book.role? roleId = some role) (current : role.isArchived = false)
    (users : after.users = book.users.map fun user =>
      if roleId ∈ user.roles then { user with accessRevision := user.accessRevision + 1 } else user)
    (roles : after.roles = book.roles.map fun row =>
      if row.name = roleId then roleUpdated displayName payload.permissions row else row) :
    Recovers after ↔ ∃ user ∈ book.users, RecoversWithRole book roleId payload.permissions user := by
  have kept (user : User) (stored : user ∈ book.users) : RECOVERY_PERMISSIONS ⊆ after.effectivePermissions user.id ↔
      ("admin" ∈ book.activeRoles user ∨
        RECOVERY_PERMISSIONS ⊆ book.permissionsForRoles ((book.activeRoles user).filter fun name => name ≠ roleId) ∪
          if roleId ∈ user.roles then payload.permissions ∪ builtinRolePermissions roleId else ∅) := by
    by_cases admin : "admin" ∈ book.activeRoles user
    · refine iff_of_true (fun permission _ => ?_) (.inl admin)
      obtain ⟨held, available⟩ := mem_activeRoles.mp admin
      obtain ⟨now, listed, sameRoles⟩ := user?_roleUpdated users stored
      rw [mem_effectivePermissions]
      refine ⟨now, listed, .inl ⟨sameRoles ▸ held, ?_⟩⟩
      exact (available_changed roles (fun _ => rfl) fun _ _ => rfl).mpr available
    · rw [or_iff_right admin]
      constructor
      · intro all permission recovery
        exact (mem_effectivePermissions_roleUpdated recovery found current users roles stored admin).mp (all recovery)
      · intro all permission recovery
        exact (mem_effectivePermissions_roleUpdated recovery found current users roles stored admin).mpr (all recovery)
  unfold Recovers AccessBook.RecoveryAdministrator RecoversWithRole
  rw [users]
  simp only [List.mem_map, exists_exists_and_eq_and]
  refine exists_congr fun user => and_congr_right fun stored => ?_
  rw [← kept user stored]
  split <;> rfl

end RoleUpdate

/-- A request that succeeds leaves a recovery administrator exactly where the guards see to it or its condition does. -/
theorem Effect.recovers_iff {request : AccessRequest} (effect : Effect book principal after request) (recovers : Recovers book) :
    Recovers after ↔ RecoveryKept book principal request := by
  cases effect with
  | nothing same quiet =>
      subst same
      refine iff_of_true recovers ?_
      cases request <;> first | trivial | exact absurd quiet id
  | @created payload id users roles granted =>
      refine iff_of_true ?_ trivial
      obtain ⟨user, stored, active, state, all, held⟩ := recovers
      have kept : user ∈ after.users := users ▸ List.mem_append_left _ stored
      refine ⟨user, kept, active, state, all, ?_⟩
      rwa [effectivePermissions_congr roles (by rw [user?_of_mem kept, user?_of_mem stored])]
  | @accessUpdated userId payload user found _ available _ _ _ lastAdmin selfLockout changes =>
      rw [changes.recovers_iff (fun _ => rfl) found]
      have names : book.activeRoles (Access.accessUpdated payload user) = payload.roleIds :=
        List.filter_eq_self.mpr fun name listed => decide_eq_true (available name listed)
      rw [names]
      constructor
      · rintro (another | ⟨_, _, all, held⟩)
        · exact .inr (.inr (.inl another))
        · exact .inr (.inr (.inr ⟨all, held⟩))
      · rintro (⟨admin, dropped⟩ | restricts | another | ⟨all, held⟩)
        · exact .inl (count_excluding_ne_zero.mp (lastAdmin admin dropped))
        · exact .inl (count_excluding_ne_zero.mp (selfLockout restricts))
        · exact .inl another
        · exact ((Access.recovers_iff found).mp recovers).imp_right fun before => ⟨before.1, before.2.1, all, held⟩
  | @statusChanged active userId _ user found current lastAdmin changes =>
      refine iff_of_true ((changes.recovers_iff (fun _ => rfl) found).mpr ?_) trivial
      rcases (Access.recovers_iff found).mp recovers with another | ⟨signedIn, _, all, held⟩
      · exact .inl another
      · cases active with
        | false =>
            rw [(user?_mem found).2] at held
            exact .inl (count_excluding_ne_zero.mp (lastAdmin rfl ⟨signedIn, all, (user?_mem found).2 ▸ held⟩))
        | true =>
            refine .inr ⟨rfl, rfl, all, ?_⟩
            rwa [(user?_mem found).2, effectivePermissions_of_user found] at held
  | @removed userId _ user roles now found lastAdmin changes =>
      refine iff_of_true ((changes.recovers_iff (fun _ => rfl) found).mpr (.inl ?_)) trivial
      rcases (Access.recovers_iff found).mp recovers with another | ⟨signedIn, _, all, held⟩
      · exact another
      · exact count_excluding_ne_zero.mp (lastAdmin ⟨signedIn, all, held⟩)
  | @restored userId _ user now found former changes =>
      refine iff_of_true ((changes.recovers_iff (fun _ => rfl) found).mpr (.inl ?_)) trivial
      refine ((Access.recovers_iff found).mp recovers).resolve_right fun before => ?_
      exact absurd (former.symm.trans before.2.1) nofun
  | @passwordReset userId _ user found _ changes =>
      refine iff_of_true ((changes.recovers_iff (fun _ => rfl) found).mpr ?_) trivial
      refine ((Access.recovers_iff found).mp recovers).imp_right fun ⟨signedIn, state, all, held⟩ => ⟨signedIn, state, all, ?_⟩
      rwa [(user?_mem found).2, effectivePermissions_of_user found] at held
  | deactivated found changes =>
      rw [changes.recovers_iff (fun _ => rfl) found]
      exact or_iff_left fun signedIn => absurd signedIn.1 nofun
  | inactive found inactive same =>
      subst same
      refine iff_of_true recovers (((Access.recovers_iff found).mp recovers).resolve_right fun before => ?_)
      exact absurd (inactive.symm.trans before.1) nofun
  | @roleCreated _ role users roles quiet =>
      have other (user : User) (stored : user ∈ book.users) (name : String) (held : name ∈ user.roles) : role.name ≠ name :=
        fun same => created_unassigned roles user stored (same ▸ held)
      have same := effectivePermissions_of_same users
        (fun user stored name held => available_created roles (other user stored name held))
        fun user stored name held _ permission => grants_created roles (other user stored name held)
      refine iff_of_true ((recovers_congr users same).mpr recovers) ?_
      cases request <;> first | trivial | exact absurd quiet id
  | roleUpdated found current _ users roles => exact roleUpdated_recovers found current users roles
  | @roleArchived roleId unassigned users roles =>
      have other (user : User) (stored : user ∈ book.users) (name : String) (held : name ∈ user.roles) : name ≠ roleId :=
        fun same => unassigned user stored (same ▸ held)
      have same := effectivePermissions_of_same users
        (fun user stored name held => available_changed roles (fun _ => rfl) fun same => absurd same (other user stored name held))
        fun user stored name held _ permission => grants_unchanged roles (fun _ => rfl) (other user stored name held)
      exact iff_of_true ((recovers_congr users same).mpr recovers) trivial

end Requests

/-! ## Runs -/

section Runs
variable {lower : String → String} {book : AccessBook} {calls : List Call}

theorem apply_recovers_iff {call : Call} {after : AccessBook} (recovers : Recovers book) (ok : call.perform lower book = .ok after) :
    Recovers (call.apply lower book) ↔ ∀ principal ∈ call.principal? book, RecoveryKept book principal call.request := by
  obtain ⟨principal, signedIn, effect⟩ := perform_effect ok
  rw [Call.apply, ok, Except.toOption, Option.getD_some, effect.recovers_iff recovers, signedIn]
  exact ⟨fun kept other same => Option.some.inj same ▸ kept, fun kept => kept principal rfl⟩

/-- A run of successful requests always leaves a recovery administrator if and only if each of them meets the condition. -/
theorem recovery_administrator_remains_iff (initial : 1 ≤ book.activeRecoveryAdministratorCount)
    (successful : ∀ earlier call later, calls = earlier ++ call :: later →
      ∃ after, call.perform lower (earlier.foldl (Call.apply lower) book) = .ok after) :
    (∀ earlier later, calls = earlier ++ later →
        1 ≤ (earlier.foldl (Call.apply lower) book).activeRecoveryAdministratorCount) ↔
      ∀ earlier call later, calls = earlier ++ call :: later →
        ∀ principal ∈ call.principal? (earlier.foldl (Call.apply lower) book),
          RecoveryKept (earlier.foldl (Call.apply lower) book) principal call.request := by
  simp only [count_pos] at initial ⊢
  rw [forall_prefixes_iff initial]
  exact @foldl_guarded_iff AccessBook Call (Call.apply lower) Recovers
    (fun state call => ∃ after, call.perform lower state = .ok after)
    (fun state call => ∀ principal ∈ call.principal? state, RecoveryKept state principal call.request)
    (fun state call => Recovers (call.apply lower state)) book initial
    (fun state call recovers ⟨after, ok⟩ => apply_recovers_iff recovers ok)
    (fun state call recovers ⟨after, ok⟩ kept => (apply_recovers_iff recovers ok).mpr kept) calls successful

end Runs

/-! ## Two owners -/

/-- The permissions of recovery with those that they depend on. -/
def ownerPermissions : Finset Permission := RECOVERY_PERMISSIONS ∪ {.usersView, .rolesView}

/-- Two owners by a custom role, and a manager who may disable users. -/
def twoOwners : AccessBook where
  users :=
    [{ id := "first", email := "first", passwordHash := "f", roles := ["custom-owner"] },
      { id := "second", email := "second", passwordHash := "s", roles := ["custom-owner"] },
      { id := "manager", email := "manager", passwordHash := "m", roles := ["custom-manager"] }]
  roles :=
    [{ name := "custom-owner", displayName := "Owner", permissions := ownerPermissions },
      { name := "custom-manager", displayName := "Manager", permissions := {.usersView, .usersManage, .usersDisable} }]
  valid := by decide

def deactivation (userId : String) : Call := { actorId := "manager", request := .deactivateUser userId }

/-- The manager deactivates one of the owners, and the other enables it again. -/
def onePasses : List Call :=
  [deactivation "first", { actorId := "second", request := .setUserActive true "first" {} }]

theorem one_owner_remains :
    1 ≤ (onePasses.foldl (Call.apply id) twoOwners).activeRecoveryAdministratorCount := by
  have successful : ∀ earlier call later, onePasses = earlier ++ call :: later →
      ∃ after, call.perform id (earlier.foldl (Call.apply id) twoOwners) = .ok after := by
    have returns {call : Call} {book : AccessBook} (isSome : (call.perform id book).toOption.isSome = true) :
        ∃ after, call.perform id book = .ok after := by
      cases run : call.perform id book with
      | ok after => exact ⟨after, rfl⟩
      | error failure => rw [run] at isSome; cases isSome
    simp only [onePasses, forall_splits_cons]
    exact ⟨returns (by decide), returns (by decide), forall_splits_nil⟩
  refine (recovery_administrator_remains_iff (by decide) successful).mpr ?_ onePasses [] (by simp)
  simp only [onePasses, forall_splits_cons]
  exact ⟨by decide, by decide, forall_splits_nil⟩

/-- The manager deactivates both owners; neither holds the administrator role that the guard counts. -/
theorem both_owners_deactivated :
    1 ≤ twoOwners.activeRecoveryAdministratorCount ∧
    ((deactivation "first").perform id twoOwners).toOption.isSome = true ∧
    ((deactivation "second").perform id ((deactivation "first").apply id twoOwners)).toOption.isSome = true ∧
    ([deactivation "first", deactivation "second"].foldl (Call.apply id) twoOwners).activeRecoveryAdministratorCount = 0 := by
  refine ⟨?_, ?_, ?_, ?_⟩ <;> decide

end PowerMonitor.Access
